import BucketAccess.Text.Quoted

/-!
# Loose texts

A text as programs hand it around is a sequence of code points, and a surrogate
may stand in it without its partner.  No encoding carries such a surrogate: a
text that holds one can be kept and compared, but neither sent nor printed.
-/

namespace BucketAccess

/-- A code point: a character, or one of the surrogates. -/
inductive Point where
  | char (char : Char)
  | surrogate (index : Fin 0x800)
deriving DecidableEq, Repr

/-- A text that may hold surrogates.  If it does, it is split at the first. -/
inductive Loose where
  | whole (text : String)
  | broken (front : String) (first : Fin 0x800) (rest : List Point)
deriving DecidableEq, Repr

namespace Point

/-- The first of the surrogates. -/
def firstSurrogate : Nat := 0xD800

/-- The point of a code. -/
def ofCode (code : Nat) : Point :=
  if within : code - firstSurrogate < 0x800 ∧ firstSurrogate ≤ code then
    .surrogate ⟨code - firstSurrogate, within.1⟩
  else .char (Char.ofNat code)

def code : Point → Nat
  | .char symbol => symbol.toNat
  | .surrogate index => firstSurrogate + index

/-- The character of a point that is one. -/
def char? : Point → Option Char
  | .char symbol => some symbol
  | .surrogate _ => none

/-- The characters of points that are all characters. -/
def chars? : List Point → Option (List Char)
  | [] => some []
  | point :: rest => do
      let char ← point.char?
      let chars ← chars? rest
      pure (char :: chars)

theorem chars?_cons_char (symbol : Char) (rest : List Point) :
    chars? (.char symbol :: rest) = (chars? rest).map (symbol :: ·) := by
  rw [chars?]
  cases chars? rest <;> rfl

theorem chars?_map_char (chars : List Char) : chars? (chars.map .char) = some chars := by
  induction chars with
  | nil => rfl
  | cons char chars ih => rw [List.map_cons, chars?_cons_char, ih, Option.map_some]

/-- A character of a kind. -/
def isCharOf (kind : Char → Bool) : Point → Bool
  | .char symbol => kind symbol
  | .surrogate _ => false

/-- A character in place of any point.  That of a surrogate is one of the last
for private use. -/
def mark : Point → Char
  | .char symbol => symbol
  | .surrogate index => Char.ofNat (0x10F800 + index)

theorem toNat_mark (index : Fin 0x800) : (surrogate index).mark.toNat = 0x10F800 + index := by
  have hvalid : (0x10F800 + index.val).isValidChar := .inr (by omega)
  rw [mark, Char.ofNat, dif_pos hvalid]
  rfl

/-- A point in characters that tell it from every other.  The null character
announces a surrogate, and so it stands twice for itself. -/
def guarded : Point → List Char
  | .char symbol => if symbol = '\x00' then ['\x00', '\x00'] else [symbol]
  | point => ['\x00', point.mark]

/-- The points that characters stand for. -/
def unguarded : List Char → List Point
  | [] => []
  | '\x00' :: '\x00' :: rest => .char '\x00' :: unguarded rest
  | '\x00' :: mark :: rest =>
      .surrogate (Fin.ofNat 0x800 (mark.toNat - 0x10F800)) :: unguarded rest
  | symbol :: rest => .char symbol :: unguarded rest

theorem unguarded_cons {symbol : Char} (hsymbol : symbol ≠ '\x00') (rest : List Char) :
    unguarded (symbol :: rest) = .char symbol :: unguarded rest :=
  unguarded.eq_4 symbol rest (fun _ hnull _ => hsymbol hnull) fun _ _ hnull _ => hsymbol hnull

theorem unguarded_guarded_append (point : Point) (rest : List Char) :
    unguarded (point.guarded ++ rest) = point :: unguarded rest := by
  cases point with
  | char symbol =>
      rw [guarded]
      by_cases hnull : symbol = '\x00'
      · subst hnull
        exact unguarded.eq_2 rest
      · rw [if_neg hnull, List.singleton_append, unguarded_cons hnull]
  | surrogate index =>
      have hmark : (surrogate index).mark ≠ '\x00' := by
        intro hnull
        have hcode : (surrogate index).mark.toNat = 0 := congrArg Char.toNat hnull
        rw [toNat_mark] at hcode
        omega
      have hindex : Fin.ofNat 0x800 ((surrogate index).mark.toNat - 0x10F800) = index := by
        rw [toNat_mark, Nat.add_sub_cancel_left]
        exact Fin.ofNat_val_eq_self index
      have hread := unguarded.eq_3 (surrogate index).mark rest hmark
      rwa [hindex] at hread

/-- Nothing is lost behind guards. -/
theorem unguarded_flatMap_guarded (points : List Point) :
    unguarded (points.flatMap guarded) = points := by
  induction points with
  | nil => rfl
  | cons point points ih => rw [List.flatMap_cons, unguarded_guarded_append, ih]

/-- A point as a text of its own. -/
def alone : Point → Loose
  | .char symbol => .whole (String.singleton symbol)
  | .surrogate index => .broken "" index []

end Point

namespace Loose

instance : Coe String Loose := ⟨whole⟩

def points : Loose → List Point
  | whole text => text.toList.map .char
  | broken front first rest => front.toList.map .char ++ .surrogate first :: rest

/-- The text of some points behind characters that stand reversed. -/
def behind (front : List Char) : List Point → Loose
  | [] => whole (String.ofList front.reverse)
  | .char char :: rest => behind (char :: front) rest
  | .surrogate index :: rest => broken (String.ofList front.reverse) index rest

def ofPoints : List Point → Loose := behind []

/-- The text, unless it is broken. -/
def text? : Loose → Option String
  | whole text => some text
  | broken .. => none

def isWhole (text : Loose) : Bool := text.text?.isSome

def isEmpty : Loose → Bool
  | whole text => text.isEmpty
  | broken .. => false

/-- One text behind another.  Surrogates that come to stand side by side do not
join. -/
def append : Loose → Loose → Loose
  | whole left, whole right => whole (left ++ right)
  | whole left, broken front first rest => broken (left ++ front) first rest
  | broken front first rest, right => broken front first (rest ++ right.points)

instance : Append Loose := ⟨append⟩

/-- A text with a character in the place of each surrogate. -/
def marked : Loose → String
  | whole text => text
  | broken front first rest =>
      front ++ String.ofList ((Point.surrogate first :: rest).map Point.mark)

/-- A text as one of characters only, from which it can be told. -/
def guarded (text : Loose) : String := String.ofList (text.points.flatMap Point.guarded)

/-- The text that guarded characters stand for. -/
def ofGuarded (text : String) : Loose := ofPoints (Point.unguarded text.toList)

theorem behind_map_char_append (front chars : List Char) (points : List Point) :
    behind front (chars.map .char ++ points) = behind (chars.reverse ++ front) points := by
  induction chars generalizing front with
  | nil => rfl
  | cons char chars ih =>
      rw [List.map_cons, List.cons_append, behind, ih, List.reverse_cons, List.append_assoc,
        List.singleton_append]

theorem ofPoints_points (text : Loose) : ofPoints text.points = text := by
  cases text with
  | whole text =>
      have hbehind := behind_map_char_append [] text.toList []
      rw [List.append_nil, List.append_nil] at hbehind
      rw [ofPoints, points, hbehind, behind, List.reverse_reverse, String.ofList_toList]
  | broken front first rest =>
      rw [ofPoints, points, behind_map_char_append, List.append_nil, behind,
        List.reverse_reverse, String.ofList_toList]

/-- A text is found again behind guards. -/
theorem ofGuarded_guarded (text : Loose) : ofGuarded text.guarded = text := by
  rw [ofGuarded, guarded, String.toList_ofList, Point.unguarded_flatMap_guarded, ofPoints_points]

/-- A point as it stands between the given quotes. -/
def escapePoint (quote : Char) : Point → List Char
  | .char char => Text.escapeChar quote char
  | point => Text.escapeCode point.code

/-- A text between quotes. -/
def quoted : Loose → String
  | whole text => Text.quoted text
  | text@(broken ..) =>
      let quote := Text.quoteFor (text.points.filterMap Point.char?)
      String.ofList (quote :: text.points.flatMap (escapePoint quote) ++ [quote])

end Loose

end BucketAccess
