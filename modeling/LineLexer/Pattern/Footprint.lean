import LineLexer.Pattern.Error
import LineLexer.Pattern.Expr
import LineLexer.Pattern.Room

/-!
# Footprint

How much room a pattern takes when it is laid out over the bytes of UTF-8. Every copy that a
repetition asks for is laid out anew, so a short pattern may ask for more room than there is. A
pattern is laid out twice: forwards to find where a match ends, and backwards to find where it
starts.
-/

namespace LineLexer.Pattern

namespace Expr

/-- The text that an expression stands for if it stands for just one. -/
def word? (e : Expr) : Option (List Char) :=
  if e.items.isEmpty then none else e.items.mapM literal?

end Expr

/-- The bytes of the list of a state with two ways. -/
def twoWays : Nat := 2 * Room.waySize

/-- Lays out `n` copies, as long as there is room. -/
def layCopies (lay : Room → Option Room) : (n : Nat) → Room → Option Room
  | 0, room => some room
  | n + 1, room =>
    match lay room with
    | none => none
    | some room => layCopies lay n room

/-- The room after a branch of a choice. After the second one come a state with the ways into the
branches and an end; each further branch adds a way. -/
def closeBranch (place : Nat) (room : Room) : Room :=
  match place with
  | 0 => room
  | 1 => room.add 2 twoWays
  | _ => room.add 0 Room.waySize

/-- Lays out a repetition of what `lay` lays out. -/
def layLoop (lay : Room → Option Room) (alwaysConsumes : Bool) (min : Nat) (max : Option Nat)
    (room : Room) : Option Room :=
  let optional (room : Room) : Option Room := lay (room.add 1 twoWays)
  match min, max with
  | 0, none =>
    if alwaysConsumes then optional room
    else (lay room).map (·.add 3 (2 * twoWays))
  | min + 1, none => (layCopies lay (min + 1) room).map (·.add 1 twoWays)
  | 0, some 1 => (optional room).map (·.add 1 0)
  | min, some max =>
    if min = max then layCopies lay min room
    else do
      let room ← if min = 0 then some (room.add 1 0) else layCopies lay min room
      layCopies optional (max - min) (room.add 1 0)

/-- Lays out an expression that stands at a place among the branches of a choice, counted from zero;
all places from the third on are alike. What is no branch stands at place zero. -/
def Expr.lay (direction : Direction) : (place : Nat) → Expr → Room → Option Room
  | place, .alt a b, room =>
    let words := if place = 0 then (Expr.alt a b).branches.mapM Expr.word? else none
    match words with
    | some words => (layWords direction words room).within?
    | none => do
      let room ← a.lay direction 0 room
      b.lay direction (min 2 (place + 1)) (closeBranch place room)
  | place, .seq a b, room => do
    let room ← match direction with
      | .forward => (a.lay direction 0 room).bind (b.lay direction 0)
      | .backward => (b.lay direction 0 room).bind (a.lay direction 0)
    (closeBranch place room).within?
  | place, .loop body min max _, room => do
    let room ← layLoop (body.lay direction 0) body.alwaysConsumes min max room
    (closeBranch place room).within?
  | place, .group _ body, room => do
    let room ← match direction with
      | .forward => (body.lay direction 0 (room.add 1 0)).map (·.add 1 0)
      | .backward => body.lay direction 0 room
    (closeBranch place room).within?
  | place, .chars set, room => (closeBranch place (laySet direction set room)).within?
  | place, .empty, room | place, .look _, room => (closeBranch place (room.add 1 0)).within?

/-- The room that a pattern starts with: where its matches may begin anywhere, a loop stands before
it that passes over bytes. -/
def Expr.roomBefore (direction : Direction) (e : Expr) : Room :=
  let anchored := match direction with
    | .forward => e.startsAnchored
    | .backward => e.endsAnchored
  if anchored then ⟨1, 0⟩ else ⟨3, twoWays + Room.rangeSize⟩

/-- The room of a whole pattern. Forwards, it counts as a group; at its end stands a state that
accepts. -/
def Expr.room? (direction : Direction) (e : Expr) : Option Room := do
  let whole := match direction with
    | .forward => Expr.group 0 e
    | .backward => e
  let room ← whole.lay direction 0 (e.roomBefore direction)
  (room.add 1 0).within?

/-- Refuses an expression for which there is not enough room. -/
def Expr.checkRoom (e : Expr) : Except PatternError Unit :=
  if (e.room? .forward).isSome && (e.room? .backward).isSome then .ok () else .error .tooLarge

end LineLexer.Pattern
