import Std.Data.HashSet
import ToolGateway.Text.Folding
import ToolGateway.Text.Property

/-!
Patterns that a text is searched for.

`Pattern.ends` lists the spots where a match that starts at a spot can end, the preferred ones first. A spot is a place
in the text together with what the groups of the pattern have matched so far. Each spot is listed once, so that a choice
is never taken twice at the same spot.

Where no group is matched again and no match is preferred to another, the order does not count, and `Pattern.reached`
takes all places where a match can start at once to all places where one can end.
-/

namespace ToolGateway

/-- a condition on a place between two characters -/
inductive Edge where
  | textStart
  | textEnd
  | lineStart
  | lineEnd
  /-- a place where a word begins or ends -/
  | word
  | noWord
  | wordStart
  | wordEnd
  deriving DecidableEq, Repr

inductive Pattern where
  | empty
  | one (set : CharSet)
  | edge (edge : Edge)
  | seq (first second : Pattern)
  | either (left right : Pattern)
  /-- repetitions, at least so many and, if there is a bound, at most so many; more or fewer of them first -/
  | loop (body : Pattern) (least : Nat) (most : Option Nat) (isGreedy : Bool)
  /-- a match that is kept under a number -/
  | group (number : Nat) (body : Pattern)
  /-- a place from which the body matches, or one from which it does not -/
  | ahead (body : Pattern) (isThere : Bool)
  /-- a place before which the body, so many characters wide, matches, or one before which it does not -/
  | behind (body : Pattern) (width : Nat) (isThere : Bool)
  /-- the preferred match alone -/
  | atomic (body : Pattern)
  /-- what a group has matched -/
  | again (number : Nat) (ignoresCase : Bool)
  deriving DecidableEq, Repr

namespace Pattern

/-- a place in a text, and what groups have matched: their numbers with the places where they start and end -/
structure Spot where
  place : Nat
  groups : List (Nat × Nat × Nat) := []
  deriving DecidableEq, Hashable, Repr

/-- the members of a list that have not been seen, each once, in reverse, with all that has been seen then -/
def unseen {α : Type} [BEq α] [Hashable α] (seen : Std.HashSet α) (xs : List α) : Std.HashSet α × List α :=
  xs.foldl (fun (seen, found) x => if seen.contains x then (seen, found) else (seen.insert x, x :: found)) (seen, [])

/-- the members of a list, each once, where it first stands -/
def distinct {α : Type} [BEq α] [Hashable α] (xs : List α) : List α :=
  match xs with
  | [] | [_] => xs
  | _ => (unseen ∅ xs).2.reverse

/-! ## Edges -/

/-- whether the character at a place belongs to a word -/
def isWordAt (text : Array Char) (i : Nat) : Bool :=
  match text[i]? with
  | some c => Text.Property.isWordPart c
  | none => false

def isWordBefore (text : Array Char) (i : Nat) : Bool :=
  decide (0 < i) && isWordAt text (i - 1)

def isEdge (text : Array Char) (i : Nat) : Edge → Bool
  | .textStart => i = 0
  | .textEnd => i = text.size
  | .lineStart => i = 0 || text[i - 1]? = some '\n'
  | .lineEnd => i = text.size || text[i]? = some '\n'
  | .word => isWordBefore text i != isWordAt text i
  | .noWord => isWordBefore text i == isWordAt text i
  | .wordStart => !isWordBefore text i && isWordAt text i
  | .wordEnd => isWordBefore text i && !isWordAt text i

/-! ## Repetitions -/

def exactly {α : Type} (step : List α → List α) : Nat → List α → List α
  | 0, xs => xs
  | n + 1, xs => if xs.isEmpty then [] else exactly step n (step xs)

/-- the spots visited by repetitions, each with the number of repetitions left, and those reached, in reverse -/
structure Walk where
  seen : Std.HashSet (Spot × Nat) := ∅
  reached : List Spot := []

/-- Goes on from a spot by at most so many steps that get ahead. With a bound on the repetitions, a spot counts as
visited only with the same number of them left. -/
def walk (step : Spot → List Spot) (isGreedy isBounded : Bool) (left : Nat) (spot : Spot) (w : Walk) : Walk :=
  let key := (spot, if isBounded then left else 0)
  if w.seen.contains key then w
  else
    let w := { w with seen := w.seen.insert key }
    let w := if isGreedy then w else { w with reached := spot :: w.reached }
    let w :=
      match left with
      | 0 => w
      | left + 1 =>
        ((step spot).filter fun next => spot.place < next.place).foldl
          (fun w next => walk step isGreedy isBounded left next w) w
    if isGreedy then { w with reached := spot :: w.reached } else w

/-- what is reached from a spot by at most so many steps, or by any number of them -/
def upTo (step : Spot → List Spot) (isGreedy : Bool) (size : Nat) (most : Option Nat) (spot : Spot) : List Spot :=
  let room := size - spot.place
  let w :=
    match most with
    | some n => if n < room then walk step isGreedy true n spot {} else walk step isGreedy false (room + 1) spot {}
    | none => walk step isGreedy false (room + 1) spot {}
  distinct w.reached.reverse

/-- how many characters from a place on belong to a set -/
def runLength (text : Array Char) (set : CharSet) (i : Nat) : Nat → Nat
  | 0 => 0
  | n + 1 =>
    match text[i]? with
    | some c => if set.holds c then runLength text set (i + 1) n + 1 else 0
    | none => 0

/-- what is reached by repetitions of one character of a set -/
def runEnds (text : Array Char) (set : CharSet) (least : Nat) (most : Option Nat) (isGreedy : Bool) (spot : Spot) :
    List Spot :=
  let length := runLength text set spot.place (most.getD text.size)
  if length < least then []
  else
    let places := (List.range (length - least + 1)).map fun n => { spot with place := spot.place + least + n }
    if isGreedy then places.reverse else places

/-! ## Matching -/

/-- whether the text at a place has the same characters as from `start` on, so many of them -/
def isSame (text : Array Char) (ignoresCase : Bool) (start i : Nat) : Nat → Bool
  | 0 => true
  | n + 1 =>
    match text[start]?, text[i]? with
    | some c, some d =>
      (c = d || (ignoresCase && Text.foldTogether c d)) && isSame text ignoresCase (start + 1) (i + 1) n
    | _, _ => false

/-- the spots where a match that starts at a spot can end, the preferred ones first -/
def ends (text : Array Char) : Pattern → Spot → List Spot
  | empty, spot => [spot]
  | one set, spot =>
    match text[spot.place]? with
    | some c => if set.holds c then [{ spot with place := spot.place + 1 }] else []
    | none => []
  | edge e, spot => if isEdge text spot.place e then [spot] else []
  | seq first second, spot => distinct ((ends text first spot).flatMap (ends text second))
  | either left right, spot => distinct (ends text left spot ++ ends text right spot)
  | loop (one set) least most isGreedy, spot => runEnds text set least most isGreedy spot
  | loop body least most isGreedy, spot =>
    distinct ((exactly (fun spots => distinct (spots.flatMap (ends text body))) least [spot]).flatMap
      (upTo (ends text body) isGreedy text.size (most.map (· - least))))
  | group number body, spot =>
    (ends text body spot).map fun next =>
      { next with groups := (number, spot.place, next.place) :: next.groups.filter (·.1 ≠ number) }
  | ahead body true, spot => distinct ((ends text body spot).map fun next => { next with place := spot.place })
  | ahead body false, spot => if (ends text body spot).isEmpty then [spot] else []
  | behind body width true, spot =>
    if width ≤ spot.place then
      distinct ((ends text body { spot with place := spot.place - width }).map fun next =>
        { next with place := spot.place })
    else []
  | behind body width false, spot =>
    if width ≤ spot.place && !(ends text body { spot with place := spot.place - width }).isEmpty then [] else [spot]
  | atomic body, spot => (ends text body spot).take 1
  | again number ignoresCase, spot =>
    match spot.groups.lookup number with
    | some (start, finish) =>
      if isSame text ignoresCase start spot.place (finish - start) then
        [{ spot with place := spot.place + (finish - start) }]
      else []
    | none => []

/-! ## Matching from many places at once -/

/-- whether no group of the pattern is kept or matched again, and no match is preferred to another -/
def isPlain : Pattern → Bool
  | seq first second => first.isPlain && second.isPlain
  | either left right => left.isPlain && right.isPlain
  | loop body _ _ _ => body.isPlain
  | ahead body _ => body.isPlain
  | behind body _ _ => body.isPlain
  | group _ _ | atomic _ | again _ _ => false
  | _ => true

/-- What is reached by at most so many steps, or by what is found before; each of `latest` has been seen and is new. A
place that is reached again is not gone on from, since at least as many steps were left the first time. -/
def spread (step : List Nat → List Nat) : Nat → Std.HashSet Nat → List Nat → List Nat → List Nat
  | 0, _, _, found => found
  | n + 1, seen, latest, found =>
    match unseen seen (step latest) with
    | (_, []) => found
    | (seen, next) => spread step n seen next (next ++ found)

/-- The places where matches that start at some different places can end, each once. A repetition without a bound gets
ahead at most once for each place of the text. -/
def reached (text : Array Char) : Pattern → List Nat → List Nat
  | empty, places => places
  | one set, places => (places.filter fun i => (text[i]?).any set.holds).map (· + 1)
  | edge e, places => places.filter fun i => isEdge text i e
  | seq first second, places => reached text second (reached text first places)
  | either left right, places => distinct (reached text left places ++ reached text right places)
  | loop body least most _, places =>
    let start := exactly (reached text body) least places
    spread (reached text body) ((most.map (· - least)).getD (text.size + 1)) (unseen ∅ start).1 start start
  | ahead body isThere, places => places.filter fun i => (reached text body [i]).isEmpty != isThere
  | behind body width isThere, places =>
    places.filter fun i => (decide (i < width) || (reached text body [i - width]).isEmpty) != isThere
  | _, _ => []

def isFound (p : Pattern) (text : String) : Bool :=
  let text := text.toList.toArray
  let places := List.range (text.size + 1)
  if p.isPlain then !(reached text p places).isEmpty else places.any fun i => !(ends text p { place := i }).isEmpty

/-! ## Width and groups -/

/-- how many characters a match has, if all matches have the same number -/
def width? : Pattern → Option Nat
  | empty => some 0
  | one _ => some 1
  | edge _ => some 0
  | seq first second => do return (← first.width?) + (← second.width?)
  | either left right => do
    let m ← left.width?
    let n ← right.width?
    if m = n then some m else none
  | loop body least most _ =>
    if most = some least then body.width?.map (least * ·) else none
  | group _ body => body.width?
  | ahead _ _ => some 0
  | behind _ _ _ => some 0
  | atomic body => body.width?
  | again _ _ => none

/-- the pattern with no other groups kept than those of some numbers -/
def keeping (numbers : List Nat) : Pattern → Pattern
  | seq first second => seq (first.keeping numbers) (second.keeping numbers)
  | either left right => either (left.keeping numbers) (right.keeping numbers)
  | loop body least most isGreedy => loop (body.keeping numbers) least most isGreedy
  | group number body =>
    if numbers.contains number then group number (body.keeping numbers) else body.keeping numbers
  | ahead body isThere => ahead (body.keeping numbers) isThere
  | behind body width isThere => behind (body.keeping numbers) width isThere
  | atomic body => atomic (body.keeping numbers)
  | p => p

end Pattern

end ToolGateway
