/-
**Productions.**

Rules are broken up into productions: flat sequences of symbols. A repetition becomes a rule of
its own that is either one occurrence or two repetitions in a row; every choice becomes a
production of its own; inlined rules are put in where they are used.

* `expandRepetitions` gives repetitions names, equal ones the same name;
* `flatten` lists the productions of a body;
* `productionsOf` is the whole way from rules to productions.
-/

import TagAudit.Grammar.Rule

namespace TagAudit.Grammar

/-- A symbol of a production: a terminal or the name of a rule. -/
inductive SymbolRef where
  | terminal (terminal : Terminal)
  | rule (name : String)
deriving Repr, DecidableEq, Hashable

/-- One step of a production with the marks that hold there. -/
structure Step where
  symbol : SymbolRef
  level : Option Int
  side : Option Side
  guise : Option Guise
  field : Option String
deriving Repr, DecidableEq, Hashable

/-- A flat sequence of steps and its weight. -/
structure Production where
  steps : List Step
  weight : Int
deriving Repr, DecidableEq

/-- A rule as the list of its productions. -/
structure Productions where
  name : String
  kind : RuleKind
  productions : List Production
deriving Repr

/-! ### Repetitions -/

/-- The repetitions named so far, the latest first, and the rule that is being worked on with the
number of repetitions found in it. -/
structure RepetitionNames where
  named : List (Rule × String)
  owner : String
  count : Nat

mutual

/-- The body with its repetitions replaced by references to rules. -/
def expandRepetitions : Rule → StateM RepetitionNames Rule
  | .blank => pure .blank
  | .term terminal => pure (.term terminal)
  | .ref name => pure (.ref name)
  | .seq parts => do return .seq (← expandAll parts)
  | .choice options => do return .choice (← expandAll options)
  | .level value side part => do return .level value side (← expandRepetitions part)
  | .weigh value part => do return .weigh value (← expandRepetitions part)
  | .field name part => do return .field name (← expandRepetitions part)
  | .shown guise part => do return .shown guise (← expandRepetitions part)
  | .many1 part => do
    let inner ← expandRepetitions part
    let names ← get
    match names.named.find? (·.1 == inner) with
    | some (_, name) => return .ref name
    | none =>
      let name := names.owner ++ "/" ++ toString (names.count + 1)
      set { names with named := (inner, name) :: names.named, count := names.count + 1 }
      return .ref name

/-- The bodies with their repetitions replaced by references to rules. -/
def expandAll : List Rule → StateM RepetitionNames (List Rule)
  | [] => pure []
  | part :: rest => do return (← expandRepetitions part) :: (← expandAll rest)

end

/-- The rule of a repetition. -/
def repetitionDef (inner : Rule) (name : String) : RuleDef :=
  ⟨name, .repetition, .choice [.seq [.ref name, .ref name], inner]⟩

/-- The rules without repetitions, followed by the rules that stand for repetitions. -/
def namedRepetitions (defs : List RuleDef) : List RuleDef :=
  let step (found : List RuleDef × List (Rule × String)) (next : RuleDef) :=
    let (body, names) := (expandRepetitions next.body).run ⟨found.2, next.name, 0⟩
    ({ next with body := body } :: found.1, names.named)
  let (expanded, named) := defs.foldl step ([], [])
  expanded.reverse ++ named.reverse.map fun (inner, name) => repetitionDef inner name

/-! ### Choices -/

/-- The marks that hold around a part of a body. -/
structure Marks where
  level : Option Int
  side : Option Side
  guise : Option Guise
  field : Option String

namespace Marks

/-- No marks. -/
def none : Marks := ⟨.none, .none, .none, .none⟩

end Marks

/-- The heavier of two weights, the first of two that weigh the same. -/
def heavier (first second : Int) : Int := if first.natAbs < second.natAbs then second else first

namespace Production

/-- One production after the other. -/
def append (first second : Production) : Production :=
  ⟨first.steps ++ second.steps, heavier first.weight second.weight⟩

/-- The production with another level and side at its last step. -/
def closeLevel (production : Production) (level : Option Int) (side : Option (Option Side)) :
    Production :=
  match production.steps.getLast? with
  | none => production
  | some last =>
    let last := { last with level := level, side := side.getD last.side }
    { production with steps := production.steps.dropLast ++ [last] }

end Production

mutual

/-- The productions of a body under the marks around it; `atEnd` tells that nothing follows the
body in its rule. A level that ends before its rule does holds up to its last step. -/
def flatten (marks : Marks) (atEnd : Bool) : Rule → List Production
  | .blank => [⟨[], 0⟩]
  | .term terminal =>
    [⟨[⟨.terminal terminal, marks.level, marks.side, marks.guise, marks.field⟩], 0⟩]
  | .ref name => [⟨[⟨.rule name, marks.level, marks.side, marks.guise, marks.field⟩], 0⟩]
  | .seq parts => flattenSeq marks atEnd parts
  | .choice options => flattenChoice marks atEnd options
  | .many1 part => flatten marks atEnd part
  | .level value side part =>
    let inner := flatten { marks with level := some value, side := side.or marks.side } atEnd part
    if atEnd then inner
    else inner.map (·.closeLevel marks.level (side.map fun _ => marks.side))
  | .weigh value part =>
    (flatten marks atEnd part).map fun production =>
      { production with weight := heavier value production.weight }
  | .field name part => flatten { marks with field := some name } atEnd part
  | .shown guise part => flatten { marks with guise := some guise } atEnd part

/-- The productions of a sequence: those of its parts in every combination. -/
def flattenSeq (marks : Marks) (atEnd : Bool) : List Rule → List Production
  | [] => [⟨[], 0⟩]
  | [part] => flatten marks atEnd part
  | part :: rest =>
    let firsts := flatten marks false part
    let others := flattenSeq marks atEnd rest
    firsts.flatMap fun first => others.map first.append

/-- The productions of a choice: those of its options one after the other. -/
def flattenChoice (marks : Marks) (atEnd : Bool) : List Rule → List Production
  | [] => []
  | option :: rest => flatten marks atEnd option ++ flattenChoice marks atEnd rest

end

/-! ### Inlined rules -/

/-- The production of an inlined rule as it stands in place of a step. -/
def inPlaceOf (step : Step) (production : Production) : List Step :=
  let marked := production.steps.map fun inner =>
    { inner with guise := step.guise.or inner.guise, field := step.field.or inner.field }
  match marked.getLast? with
  | none => []
  | some last =>
    marked.dropLast ++
      [{ last with level := last.level.or step.level, side := last.side.or step.side }]

/-- The steps with the first inlined rule replaced by each of its productions, if there is one. -/
def inlineFirst? (inlined : List Productions) (before : List Step) (weight : Int) :
    List Step → Option (List Production)
  | [] => none
  | step :: rest =>
    match step.symbol with
    | .terminal _ => inlineFirst? inlined (before ++ [step]) weight rest
    | .rule name =>
      match inlined.find? (·.name = name) with
      | none => inlineFirst? inlined (before ++ [step]) weight rest
      | some rule => some (rule.productions.map fun production =>
          ⟨before ++ inPlaceOf step production ++ rest, heavier weight production.weight⟩)

/-- The production with all inlined rules replaced; the fuel bounds how many there are. -/
def inlineAll (inlined : List Productions) (fuel : Nat) (production : Production) :
    List Production :=
  match fuel with
  | 0 => [production]
  | fuel + 1 =>
    match inlineFirst? inlined [] production.weight production.steps with
    | none => [production]
    | some replaced => replaced.flatMap (inlineAll inlined fuel)

/-- How many inlined rules one production may use. -/
def inlineLimit : Nat := 8

/-- The productions of all rules, the inlined ones put in where they are used. -/
def productionsOf (defs : List RuleDef) : List Productions :=
  let flat := (namedRepetitions defs).map fun rule =>
    (⟨rule.name, rule.kind, (flatten Marks.none true rule.body).eraseDups⟩ : Productions)
  let inlined := flat.filter (·.kind = .inlined)
  flat.map fun rule =>
    { rule with
      productions := (rule.productions.flatMap (inlineAll inlined inlineLimit)).eraseDups }

end TagAudit.Grammar
