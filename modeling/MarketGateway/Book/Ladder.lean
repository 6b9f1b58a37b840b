import MarketGateway.Book.Event
import MarketGateway.Number.Decimal.Literal
import MarketGateway.Text.Blank

/-!
# Ladders

A ladder is one side of a book: levels under their prices, in increasing numerical order and one
for each value. `Ladder.put` and `Ladder.erase` change one price, `Ladder.get?` looks one up. A
level that arrives is a change of one price (`LevelChange.ofLevel?`): an empty or zero quantity
takes the price out, a positive one puts the level in, and a level with a price or quantity that is
no decimal, a price that is not positive or a negative quantity is no change at all.
-/

namespace MarketGateway.Book

/-- What a level that arrives does to its side. -/
inductive LevelChange
  | put (price : Decimal) (level : Level)
  | erase (price : Decimal)
  deriving Repr, DecidableEq

/-- The change that a level stands for. -/
def LevelChange.ofLevel? (level : Level) : Option LevelChange :=
  match Decimal.ofText? (Text.trim level.price) with
  | none => none
  | some price =>
    if !price.isPositive then none
    else
      let quantity := Text.trim level.quantity
      if quantity = "" then some (erase price)
      else
        match Decimal.ofText? quantity with
        | none => none
        | some quantity =>
          if quantity.isZero then some (erase price)
          else if quantity.negative then none
          else some (put price level)

/-- Levels of one side in increasing order of price. -/
structure Ladder where
  entries : List (Decimal × Level) := []
  deriving Repr, DecidableEq, Inhabited

namespace Ladder

/-- Puts a level at its place among entries. -/
def putEntry (price : Decimal) (level : Level) :
    List (Decimal × Level) → List (Decimal × Level)
  | [] => [(price, level)]
  | entry :: rest =>
    match price.compare entry.1 with
    | .lt => (price, level) :: entry :: rest
    | .eq => (price, level) :: rest
    | .gt => entry :: putEntry price level rest

/-- Stores a level under a price, in place of the one with a price of equal value. -/
def put (ladder : Ladder) (price : Decimal) (level : Level) : Ladder :=
  ⟨putEntry price level ladder.entries⟩

/-- Takes out the level whose price has this value. -/
def erase (ladder : Ladder) (price : Decimal) : Ladder :=
  ⟨ladder.entries.filter fun entry => !price.sameValue entry.1⟩

/-- The level whose price has this value. -/
def get? (ladder : Ladder) (price : Decimal) : Option Level :=
  (ladder.entries.find? fun entry => price.sameValue entry.1).map (·.2)

def size (ladder : Ladder) : Nat := ladder.entries.length

/-- Levels in increasing order of price. -/
def levels (ladder : Ladder) : List Level := ladder.entries.map (·.2)

def apply (ladder : Ladder) : LevelChange → Ladder
  | .put price level => ladder.put price level
  | .erase price => ladder.erase price

/-- Applies a level that arrives. -/
def update (ladder : Ladder) (level : Level) : Ladder :=
  match LevelChange.ofLevel? level with
  | some change => ladder.apply change
  | none => ladder

/-- Applies levels in the order in which they arrive. -/
def updateAll (ladder : Ladder) (levels : List Level) : Ladder := levels.foldl update ladder

end Ladder

end MarketGateway.Book
