import BucketAccess.Json.Bytes

/-!
# Texts that are nested too deeply

A text that opens more arrays than there is room for is refused for that reason,
whatever comes behind, because reading stops at the first flaw from the left.
-/

namespace BucketAccess

theorem Text.utf8Points_brackets (count : Nat) :
    utf8Points (List.replicate count 0x5B) = some (List.replicate count (.char '[')) := by
  induction count with
  | zero => rfl
  | succ count ih =>
      rw [List.replicate_succ, utf8Points.eq_def]
      dsimp only
      rw [if_pos (by decide), ih]
      rfl

namespace Json

/-- Arrays that are opened. -/
def brackets (count : Nat) : List Point := List.replicate count (.char '[')

/-- Each opening bracket takes up room, and two steps. -/
theorem takeValue_brackets {room fuel : Nat} (rest : List Point) (hfuel : 2 * room < fuel) :
    takeValue fuel room (brackets (room + 1) ++ rest) = .error .deepNesting := by
  induction room generalizing fuel with
  | zero =>
      obtain ⟨steps, rfl⟩ := Nat.exists_eq_add_of_lt hfuel
      rfl
  | succ room ih =>
      obtain ⟨steps, rfl⟩ : ∃ steps, fuel = steps + 2 := ⟨fuel - 2, by omega⟩
      have hinner : takeValue steps room (brackets (room + 1) ++ rest) = .error .deepNesting :=
        ih (by omega)
      have hitems : takeItems (steps + 1) room (brackets (room + 1) ++ rest) =
          .error .deepNesting := by
        rw [takeItems, hinner]
        rfl
      change (takeItems (steps + 1) room (brackets (room + 1) ++ rest)).map _ = _
      rw [hitems]
      rfl

theorem read_brackets {room count : Nat} (hcount : room < count) :
    read room (brackets count) = .error .deepNesting := by
  obtain ⟨more, rfl⟩ := Nat.exists_eq_add_of_lt hcount
  have hsplit : brackets (room + more + 1) = brackets (room + 1) ++ brackets more := by
    rw [brackets, brackets, brackets, List.replicate_append_replicate, Nat.add_right_comm]
  have hgap : skipGap (brackets (room + more + 1)) = brackets (room + more + 1) := rfl
  have hfuel : 2 * room < 2 * (brackets (room + more + 1)).length + 2 := by
    rw [brackets, List.length_replicate]
    omega
  have hdeep := takeValue_brackets (brackets more) hfuel
  rw [← hsplit] at hdeep
  rw [read, hgap, hdeep]
  rfl

theorem encoding_brackets (count : Nat) :
    (marked? (List.replicate count 0x5B)).getD
        (unmarked (List.replicate count 0x5B), List.replicate count 0x5B) =
      (.utf8, List.replicate count 0x5B) := by
  rcases count with _ | _ | _ | _ | more <;> rfl

/-- Bytes that open too many arrays are nested too deeply, and so are no JSON. -/
theorem ofBytes_brackets {room count : Nat} (hcount : room < count) :
    ofBytes room (List.replicate count 0x5B) = .error .deepNesting := by
  rw [ofBytes, encoding_brackets]
  change (expect (Text.utf8Points (List.replicate count 0x5B))).bind (read room) = _
  rw [Text.utf8Points_brackets]
  exact read_brackets hcount

end Json

end BucketAccess
