/-
**Tokens that get in each other's way.**

Two tokens can be in each other's way in several manners: a text can be read as either of them,
one can go on where the other has ended, or one can take up white space before the other. What is
found out here decides which states of the parser may be treated alike, and which tokens can be
looked for together.

* `Reach.explore` follows two tokens at once and notes what happens;
* `ClashTable.ofGrammar` does so for all tokens;
* `ClashTable.hides`, `ClashTable.overlaps` and `ClashTable.outlasts` are what the parser is built
  on.
-/

import TagAudit.Grammar.Item
import TagAudit.Lexical.TokenMachine

namespace TagAudit.Grammar

namespace NumberedGrammar

variable (grammar : NumberedGrammar)

/-- The tokens whose terminals have a property. -/
def tokensWith (property : Terminal → Bool) : TokenSet :=
  TokenSet.ofList ((List.range grammar.ruleStart).filter fun token =>
    match grammar.terminals[token]? with
    | some terminal => property terminal
    | none => false)

/-- The tokens with which each symbol can end. -/
def lastSets : Array TokenSet :=
  let begin := (Array.range grammar.symbolCount).map fun symbol =>
    if grammar.isRule symbol then .empty else TokenSet.singleton symbol
  let step (sets : Array TokenSet) : Array TokenSet × Bool :=
    grammar.productions.foldl (fun (sets, changed) production =>
      match production.steps.getLast? with
      | none => (sets, changed)
      | some last =>
        let more := sets.getD last.symbol .empty
        let (sets, grew) := growAt sets production.rule more
        (sets, changed || grew)) (sets, false)
  settle step grammar.symbolCount begin

/-- The tokens that can come right behind each token. Where a name can come, so can the words that
are no names; what may stand anywhere can come behind everything, and everything behind it. -/
def followSets (firsts : Array TokenSet) : Array TokenSet :=
  let lasts := grammar.lastSets
  let extras := grammar.tokensWith Terminal.isExtra
  let reserved := grammar.tokensWith Terminal.isReserved
  let addPair (sets : Array TokenSet) (pair : NumberedStep × NumberedStep) : Array TokenSet :=
    let next := firsts.getD pair.2.symbol .empty
    (lasts.getD pair.1.symbol .empty).toList.foldl
      (fun sets token => sets.modify token (·.union next)) sets
  let sets := grammar.productions.foldl (fun sets production =>
    (production.steps.zip (production.steps.drop 1)).foldl addPair sets)
    (Array.replicate grammar.ruleStart .empty)
  sets.mapIdx fun token follows =>
    if extras.contains token then grammar.tokensWith fun _ => true
    else extras.union (if follows.contains wordToken then follows.union reserved else follows)

end NumberedGrammar

end TagAudit.Grammar

namespace TagAudit.Lexical

open Grammar

/-! ### Two tokens at once -/

/-- How one token gets in the way of another one. -/
structure Clash where
  /-- Both can have the same text, and this one wins. -/
  beats : Bool
  /-- This one goes on where the other has ended. -/
  outruns : Bool
  /-- It does so with a character that can also come behind the other. -/
  swallows : Bool
  /-- This one has ended, and the other is kept from going on. -/
  stops : Bool
  /-- This one ends where white space before a token could go on. -/
  endsInBlank : Bool
deriving Inhabited

/-- No clash. -/
def Clash.none : Clash := ⟨false, false, false, false, false⟩

/-- What is known of two tokens: the clashes of the first with the second and of the second with
the first. -/
structure Reach where
  first : Nat
  second : Nat
  ahead : Clash
  behind : Clash

namespace Reach

/-- Notes a fact about one of the tokens. -/
def note (reach : Reach) (token : Nat) (fact : Clash → Clash) : Reach :=
  if token = reach.first then { reach with ahead := fact reach.ahead }
  else { reach with behind := fact reach.behind }

/-- The other one of the two tokens. -/
def other (reach : Reach) (token : Nat) : Nat :=
  if token = reach.first then reach.second else reach.first

variable (machine : TokenMachine)

/-- What the tokens that can end tell: where both end one of them wins, and each of them may end
where white space could go on. -/
def noteEnds (threads : Threads) (reach : Reach) : Reach :=
  let reach :=
    if machine.blankAhead threads then
      threads.done.toList.foldl (fun reach token =>
        reach.note token fun clash => { clash with endsInBlank := true }) reach
    else reach
  match threads.done.toList, machine.winner? threads with
  | _ :: _ :: _, some winner => reach.note winner fun clash => { clash with beats := true }
  | _, _ => reach

/-- What a step tells where a token has ended: if it belongs to the other token only, that token
goes on, or else it is kept from doing so. -/
def noteMove (follows : Array KindSet) (threads : Threads) (found : Nat) (kinds : KindSet)
    (move : Move) (reach : Reach) : Reach :=
  if move.tokens.contains found then reach
  else if machine.allows threads found move then
    let swallows := !(kinds.inter (follows.getD found .empty)).isEmpty
    reach.note (reach.other found) fun clash =>
      { clash with outruns := true, swallows := clash.swallows || swallows }
  else reach.note found fun clash => { clash with stops := true }

/-- The kinds of characters that can come next, taken together where no spot tells them apart. -/
def classes (threads : Threads) : List KindSet :=
  threads.spots.foldl (fun classes number =>
    let kinds := (machine.spot number).kinds
    let inside := classes.map (·.inter kinds)
    let outside := classes.map (·.diff kinds)
    let rest := classes.foldl (fun rest found => rest.diff found) kinds
    (rest :: inside ++ outside).filter (!·.isEmpty)) []

/-- The steps that can be made, with the kinds of characters that lead to them. -/
def moves (threads : Threads) : List (KindSet × Move) :=
  (classes machine threads).filterMap fun kinds =>
    match kinds.toList with
    | [] => none
    | kind :: _ => (machine.move? threads kind).map (kinds, ·)

/-- Whether both tokens are still being read. -/
def isShared (threads : Threads) : Bool :=
  let tokens := threads.done.union
    (TokenSet.ofList (threads.spots.map fun number => (machine.spot number).token))
  1 < tokens.toList.length

/-- Follows two tokens from all that is waiting on, as far as both are being read; the fuel bounds
the number of steps. -/
def explore (follows : Array KindSet) :
    Nat → List Threads → List Threads → Reach → Reach
  | 0, _, _, reach => reach
  | _ + 1, [], _, reach => reach
  | fuel + 1, threads :: waiting, seen, reach =>
    if !isShared machine threads || seen.contains threads then
      explore follows fuel waiting seen reach
    else
      let moves := moves machine threads
      let reach := noteEnds machine threads reach
      let reach :=
        match machine.winner? threads with
        | some found => moves.foldl (fun reach (kinds, move) =>
            noteMove machine follows threads found kinds move reach) reach
        | none => reach
      explore follows fuel (moves.map (·.2.threads) ++ waiting) (threads :: seen) reach

end Reach

/-! ### All tokens -/

/-- The clashes of each token with all others. -/
structure ClashTable where
  beats : Array TokenSet
  outruns : Array TokenSet
  swallows : Array TokenSet
  stops : Array TokenSet
  endsInBlank : Array TokenSet

namespace ClashTable

/-- Adds the clash of a token with another one. -/
def add (table : ClashTable) (first second : Nat) (clash : Clash) : ClashTable :=
  let addIf (holds : Bool) (sets : Array TokenSet) : Array TokenSet :=
    if holds then sets.modify first (·.insert second) else sets
  { beats := addIf clash.beats table.beats
    outruns := addIf clash.outruns table.outruns
    swallows := addIf clash.swallows table.swallows
    stops := addIf clash.stops table.stops
    endsInBlank := addIf clash.endsInBlank table.endsInBlank }

/-- How many steps are made for two tokens at most. -/
def stepLimit : Nat := 100000

/-- The kinds of characters that can come first in a token or in the white space before it. -/
def startKinds (machine : TokenMachine) (token : Nat) : KindSet :=
  (machine.entries.getD token []).foldl (fun kinds number =>
    kinds.union (machine.spot number).kinds) .empty

/-- The kinds of characters that can come first in the text of a token. -/
def textKinds (machine : TokenMachine) (token : Nat) : KindSet :=
  (machine.entries.getD token []).foldl (fun kinds number =>
    let spot := machine.spot number
    if spot.blank then kinds else kinds.union spot.kinds) .empty

/-- The clashes of the tokens of a grammar. Two tokens have none if neither text can start like the
other token or the white space before it. -/
def ofGrammar (grammar : NumberedGrammar) (firsts : Array TokenSet) (machine : TokenMachine) :
    ClashTable :=
  let tokens := List.range grammar.ruleStart
  let starts := (tokens.map (startKinds machine)).toArray
  let texts := (tokens.map (textKinds machine)).toArray
  let follows := (grammar.followSets firsts).map fun next =>
    next.toList.foldl (fun kinds token => kinds.union (starts.getD token .empty)) .empty
  let none := Array.replicate grammar.ruleStart TokenSet.empty
  tokens.foldl (fun table first =>
    (List.range first).foldl (fun table second =>
      let apart :=
        ((texts.getD first .empty).inter (starts.getD second .empty)).isEmpty &&
          ((texts.getD second .empty).inter (starts.getD first .empty)).isEmpty
      if apart then table
      else
        let begin := machine.start (TokenSet.ofList [first, second])
        let reach := Reach.explore machine follows stepLimit [begin] []
          ⟨first, second, .none, .none⟩
        (table.add first second reach.ahead).add second first reach.behind) table)
    ⟨none, none, none, none, none⟩

variable (table : ClashTable)

/-- The tokens that a token hides: its text can be taken for theirs, or goes on into what follows
them. -/
def hides (token : Nat) : TokenSet :=
  ((table.beats.getD token .empty).union (table.swallows.getD token .empty)).union
    (table.endsInBlank.getD token .empty)

/-- The tokens that a token overlaps with in any manner. -/
def overlaps (token : Nat) : TokenSet :=
  ((table.beats.getD token .empty).union (table.outruns.getD token .empty)).union
    ((table.stops.getD token .empty).union (table.endsInBlank.getD token .empty))

/-- Whether a token is a longer form of another one. -/
def outlasts (first second : Nat) : Bool :=
  let longer := (table.swallows.getD first .empty).union (table.endsInBlank.getD first .empty)
  longer.contains second && !(table.endsInBlank.getD second .empty).contains first

end ClashTable

end TagAudit.Lexical
