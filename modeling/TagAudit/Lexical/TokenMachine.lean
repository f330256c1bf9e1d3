/-
**A machine for tokens.**

All forms of tokens are followed at once. A spot is a character of a form; from each spot it is
known which spots can come next and whether the token can end there. What is being read is then
a set of spots, and a character leads from one set to the next.

* `TextForm.plan` numbers the spots of a form;
* `TokenMachine.ofTerminals` puts the spots of all tokens together;
* `TokenMachine.move?` reads one character;
* `TokenMachine.allows` decides whether to read on where a token has already been found.
-/

import TagAudit.Lexical.Form

namespace TagAudit.Lexical

open Grammar

/-! ### Spots of a form -/

/-- The spots of a form: the kinds that each one takes, the spots at which the form can start
and end, and which spot can follow which. -/
structure Plan where
  kinds : List KindSet
  /-- Whether the form takes the empty text. -/
  empty : Bool
  firsts : List Nat
  lasts : List Nat
  links : List (Nat × Nat)

namespace Plan

/-- Every spot of one list leads to every spot of another one. -/
def connect (firsts seconds : List Nat) : List (Nat × Nat) :=
  firsts.flatMap fun first => seconds.map fun second => (first, second)

end Plan

/-- The spots of a form, numbered from a given number on. -/
def TextForm.plan : TextForm → Nat → Plan
  | .nothing, _ => ⟨[], true, [], [], []⟩
  | .one kinds, start => ⟨[kinds], false, [start], [start], []⟩
  | .seq first second, start =>
    let one := first.plan start
    let other := second.plan (start + one.kinds.length)
    { kinds := one.kinds ++ other.kinds
      empty := one.empty && other.empty
      firsts := if one.empty then one.firsts ++ other.firsts else one.firsts
      lasts := if other.empty then one.lasts ++ other.lasts else other.lasts
      links := one.links ++ other.links ++ Plan.connect one.lasts other.firsts }
  | .either first second, start =>
    let one := first.plan start
    let other := second.plan (start + one.kinds.length)
    { kinds := one.kinds ++ other.kinds
      empty := one.empty || other.empty
      firsts := one.firsts ++ other.firsts
      lasts := one.lasts ++ other.lasts
      links := one.links ++ other.links }
  | .many1 part, start =>
    let plan := part.plan start
    { plan with links := plan.links ++ Plan.connect plan.lasts plan.firsts }

/-! ### The machine -/

/-- A spot in the form of a token. -/
structure Spot where
  token : Nat
  kinds : KindSet
  /-- Whether this is the white space before the token. -/
  blank : Bool
  priority : Nat
  /-- Whether the token can end behind this spot. -/
  final : Bool
  /-- The spots that can come next. -/
  next : List Nat
deriving Inhabited

/-- The forms of all tokens. -/
structure TokenMachine where
  spots : Array Spot
  /-- The spots at which each token can start. -/
  entries : Array (List Nat)
  /-- Priority and rank of each token. -/
  standings : Array (Nat × Nat)

/-- What is being read: the spots that can come next, and the tokens that can end here. -/
structure Threads where
  spots : List Nat
  done : TokenSet
deriving BEq, Inhabited

/-- A step over a character: the tokens it belongs to, whether it is white space before all of
them, its priority, and what is being read behind it. -/
structure Move where
  tokens : TokenSet
  blank : Bool
  priority : Nat
  threads : Threads

namespace TokenMachine

/-- Adds the spots of a token. -/
def addToken (machine : TokenMachine) (token : Nat) : Option Form → TokenMachine
  | none =>
    { machine with
      entries := machine.entries.push []
      standings := machine.standings.push (0, 0) }
  | some form =>
    let start := machine.spots.size
    let space := if form.spaced then [start] else []
    let plan := form.text.plan (start + space.length)
    let spot (kinds : KindSet) (number : Nat) : Spot :=
      { token := token
        kinds := kinds
        blank := false
        priority := form.priority
        final := plan.lasts.contains number
        next := ((plan.links.filter (·.1 == number)).map (·.2)).eraseDups }
    let spaces := space.map fun number =>
      (⟨token, blankKinds, true, 0, false, number :: plan.firsts⟩ : Spot)
    { spots := machine.spots ++ spaces.toArray ++
        (plan.kinds.zipIdx (start + space.length)).toArray.map fun (kinds, number) =>
          spot kinds number
      entries := machine.entries.push (space ++ plan.firsts)
      standings := machine.standings.push (form.priority, form.rank) }

/-- The machine of a list of terminals, which are numbered from 0. -/
def ofTerminals (terminals : List Terminal) : TokenMachine :=
  terminals.zipIdx.foldl (fun machine (terminal, token) =>
    machine.addToken token (formOf? terminal)) ⟨#[], #[], #[]⟩

variable (machine : TokenMachine)

/-- The spot with a number. -/
def spot (number : Nat) : Spot := machine.spots.getD number default

/-- Puts a number into an ordered list, once. -/
def insertOrdered (number : Nat) : List Nat → List Nat
  | [] => [number]
  | first :: rest =>
    if number < first then number :: first :: rest
    else if number = first then first :: rest
    else first :: insertOrdered number rest

/-- What is being read where one of some tokens is looked for. -/
def start (tokens : TokenSet) : Threads :=
  ⟨tokens.toList.flatMap fun token => machine.entries.getD token [], .empty⟩

/-- The step over a character of some kind, if there is one. -/
def move? (threads : Threads) (kind : Nat) : Option Move :=
  match threads.spots.filter fun number => (machine.spot number).kinds.contains kind with
  | [] => none
  | taken =>
    let spots := taken.map machine.spot
    some
      { tokens := TokenSet.ofList (spots.map (·.token))
        blank := spots.all (·.blank)
        priority := spots.foldl (fun highest spot => max highest spot.priority) 0
        threads :=
          { spots := spots.foldr (fun spot later => spot.next.foldr insertOrdered later) []
            done := TokenSet.ofList ((spots.filter (·.final)).map (·.token)) } }

/-- Whether the first of two tokens wins over the second. -/
def prefers (first second : Nat) : Bool :=
  let (priority, rank) := machine.standings.getD first (0, 0)
  let (priority', rank') := machine.standings.getD second (0, 0)
  if priority != priority' then priority' < priority
  else if rank != rank' then rank' < rank
  else first < second

/-- The token that wins among those that can end. -/
def winner? (threads : Threads) : Option Nat :=
  threads.done.toList.foldl (fun best token =>
    match best with
    | none => some token
    | some found => if machine.prefers found token then some found else some token) none

/-- Whether white space before some token can come next. -/
def blankAhead (threads : Threads) : Bool :=
  threads.spots.any fun number => (machine.spot number).blank

/-- Whether a step may be made where a token has been found: it must not have a lower priority. At
the same priority it must not be white space, and where white space could come the token has to go
on. -/
def allows (threads : Threads) (found : Nat) (move : Move) : Bool :=
  let priority := (machine.standings.getD found (0, 0)).1
  if move.priority < priority then false
  else if move.priority = priority then
    !move.blank && (!machine.blankAhead threads || move.tokens.contains found)
  else true

end TokenMachine

end TagAudit.Lexical
