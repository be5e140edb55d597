import BucketAccess.Proofs.Console.Plain

/-!
# What a console leaves alone

A console shows a text of printable ASCII unaltered exactly when the text is
plain and the console knows no picture by a code in it.  It shows it unbroken
exactly when its lines have room for it, and no line that it shows reaches over
its end, whatever the text.
-/

namespace BucketAccess.Console

open Unicode (cellsOf cellWidth)

/-! ## Codes -/

section Codes

variable {emoji? : List Char → Option (List Char)} {code chars picture : List Char}

/-- The codes of a text that goes on from a code that has been begun, if any. -/
def codesFrom : Option (List Char) → List Char → List (List Char)
  | _, [] => []
  | none, char :: rest =>
      if char = ':' then codesFrom (some []) rest else codesFrom none rest
  | some code, char :: rest =>
      if char = ':' then code.reverse :: codesFrom none rest
      else if Text.isBlank char then codesFrom none rest
      else codesFrom (some (char :: code)) rest

/-- The codes of a text: what stands between two colons, no colon counted
twice. -/
def codes (chars : List Char) : List (List Char) := codesFrom none chars

/-- A code that has been begun, as it is written. -/
def begun : Option (List Char) → List Char
  | none => []
  | some code => ':' :: code.reverse

/-- Where no picture is known, nothing is replaced. -/
theorem replaceFrom_of_unknown {begunCode : Option (List Char)}
    (hunknown : ∀ code ∈ codesFrom begunCode chars, picture? emoji? code = none) :
    replaceFrom emoji? begunCode chars = begun begunCode ++ chars := by
  fun_induction codesFrom begunCode chars with
  | case1 begunCode => cases begunCode <;> simp [replaceFrom, begun]
  | case2 rest ih =>
      rw [replaceFrom, if_pos rfl, ih hunknown]
      rfl
  | case3 char rest hcolon ih =>
      rw [replaceFrom, if_neg hcolon, ih hunknown]
      rfl
  | case4 code rest ih =>
      obtain ⟨hnone, hrest⟩ := List.forall_mem_cons.mp hunknown
      rw [replaceFrom, if_pos rfl, hnone, ih hrest]
      simp [begun]
  | case5 code char rest hcolon hblank ih =>
      rw [replaceFrom, if_neg hcolon, if_pos hblank, ih hunknown]
      simp [begun]
  | case6 code char rest hcolon hblank ih =>
      rw [replaceFrom, if_neg hcolon, if_neg hblank, ih hunknown]
      simp [begun]

/-- A picture that is known stands in the place of its code. -/
theorem subset_replaceFrom {begunCode : Option (List Char)}
    (hcode : code ∈ codesFrom begunCode chars) (hpicture : picture? emoji? code = some picture) :
    picture ⊆ replaceFrom emoji? begunCode chars := by
  fun_induction codesFrom begunCode chars with
  | case1 begunCode => cases hcode
  | case2 rest ih =>
      rw [replaceFrom, if_pos rfl]
      exact ih hcode
  | case3 char rest hcolon ih =>
      rw [replaceFrom, if_neg hcolon]
      exact List.subset_cons_of_subset char (ih hcode)
  | case4 begunCode rest ih =>
      rw [replaceFrom, if_pos rfl]
      rcases List.mem_cons.mp hcode with rfl | hrest
      · rw [hpicture]
        exact List.subset_append_left picture _
      · exact List.subset_append_of_subset_right _ (ih hrest)
  | case5 begunCode char rest hcolon hblank ih =>
      rw [replaceFrom, if_neg hcolon, if_pos hblank]
      exact List.subset_append_of_subset_right _ (List.subset_cons_of_subset char (ih hcode))
  | case6 begunCode char rest hcolon hblank ih =>
      rw [replaceFrom, if_neg hcolon, if_neg hblank]
      exact ih hcode

end Codes

/-! ## Printable texts -/

/-- A printable ASCII character, the blank included. -/
def isPrintable (char : Char) : Bool := 0x20 ≤ char.toNat && char.toNat < 0x7F

theorem ne_of_isPrintable {char other : Char} (hprintable : isPrintable char = true)
    (hother : isPrintable other = false) : char ≠ other := by
  rintro rfl
  rw [hprintable] at hother
  cases hother

theorem isShown_of_isPrintable {char : Char} (hprintable : isPrintable char = true) :
    isShown char = true := by
  have hne : ∀ other, isPrintable other = false → char ≠ other :=
    fun other hother => ne_of_isPrintable hprintable hother
  simp [isShown, hne, isPrintable]

/-- Beyond ASCII every character is shown, and none counts as printable here. -/
theorem isShown_of_lt {char : Char} (hforeign : 0x7F < char.toNat) :
    isShown char = true ∧ isPrintable char = false := by
  have hne : ∀ other : Char, other.toNat ≤ 0x7F → char ≠ other := by
    rintro other hle rfl
    omega
  refine ⟨by simp [isShown, hne], ?_⟩
  rw [isPrintable, Bool.and_eq_false_iff]
  right
  rw [decide_eq_false_iff_not]
  omega

theorem filter_isShown_of_isPrintable {chars : List Char}
    (hprintable : ∀ char ∈ chars, isPrintable char = true) : chars.filter isShown = chars :=
  List.filter_eq_self.mpr fun char hchar => isShown_of_isPrintable (hprintable char hchar)

section Unaltered

variable {console : Console} {text : String} {runs : List (List Char)}

/-- A console leaves a text alone: there is nothing in it but what it stands
for. -/
structure Spares (console : Console) (chars : List Char) : Prop where
  plain : isPlain chars = true
  unknown : ∀ code ∈ codes chars, picture? console.emoji? code = none

/-- A picture is seen among printable characters. -/
theorem unknown_of_shown (hshown : ∀ char ∈ console.shown runs, isPrintable char = true) :
    ∀ run ∈ runs, ∀ code ∈ codes run, picture? console.emoji? code = none := by
  intro run hrun code hcode
  cases hpicture : picture? console.emoji? code with
  | none => rfl
  | some picture =>
      obtain ⟨known, hknown, rfl⟩ := Option.map_eq_some_iff.mp hpicture
      obtain ⟨char, hchar, hforeign⟩ := console.not_ascii _ known hknown
      obtain ⟨hvisible, hunprintable⟩ := isShown_of_lt hforeign
      have hreplaced : char ∈ replaceCodes console.emoji? run :=
        subset_replaceFrom hcode hpicture (List.mem_append_left _ hchar)
      have hmem : char ∈ console.shown runs :=
        List.mem_filter.mpr ⟨List.mem_flatMap.mpr ⟨run, hrun, hreplaced⟩, hvisible⟩
      rw [hshown char hmem] at hunprintable
      cases hunprintable

theorem shown_of_unknown
    (hunknown : ∀ run ∈ runs, ∀ code ∈ codes run, picture? console.emoji? code = none) :
    console.shown runs = runs.flatten.filter isShown := by
  have hruns : ∀ run ∈ runs, replaceCodes console.emoji? run = run :=
    fun run hrun => replaceFrom_of_unknown (hunknown run hrun)
  rw [shown, List.flatMap, List.map_congr_left hruns, List.map_id']

/-- A printable text is shown unaltered exactly if the console spares it. -/
theorem shown_eq_self_iff (hprintable : ∀ char ∈ text.toList, isPrintable char = true) :
    (∃ runs, readMarkup text = .ok runs ∧ console.shown runs = text.toList) ↔
      console.Spares text.toList := by
  constructor
  · rintro ⟨runs, hread, hshown⟩
    rw [← hshown] at hprintable
    have hunknown := unknown_of_shown hprintable
    have hlength : text.toList.length ≤ runs.flatten.length := by
      rw [← hshown, shown_of_unknown hunknown]
      exact List.length_filter_le isShown _
    have hplain := isPlain_of_length hread hlength
    rw [readMarkup_of_isPlain hplain] at hread
    obtain rfl := Except.ok.inj hread
    exact ⟨hplain, hunknown _ List.mem_cons_self⟩
  · rintro ⟨hplain, hunknown⟩
    refine ⟨_, readMarkup_of_isPlain hplain, ?_⟩
    rw [shown_of_unknown (List.forall_mem_singleton.mpr hunknown), List.flatten_singleton,
      filter_isShown_of_isPrintable hprintable]

end Unaltered

example : picture? (fun name => if name = ['x'] then some [Char.ofNat 0x274C] else none)
    "X-text".toList = some [Char.ofNat 0x274C, Char.ofNat 0xFE0E] := by decide +kernel
example : codes "Key: a:x:b:c".toList = ["x".toList] := by decide +kernel

/-! ## Lines -/

section Lines

variable {width : Nat} {chars line : List Char}

theorem cropLine_of_fits (hfits : cellsOf chars ≤ width) : cropLine width chars = chars := by
  induction chars generalizing width with
  | nil => rfl
  | cons char chars ih =>
      change cellWidth char + cellsOf chars ≤ width at hfits
      rw [cropLine, if_pos (by omega), ih (by omega)]

theorem cellsOf_blanks (count : Nat) : cellsOf (List.replicate count ' ') = count := by
  induction count with
  | zero => rfl
  | succ count ih =>
      change 1 + cellsOf (List.replicate count ' ') = count + 1
      rw [ih, Nat.add_comm]

theorem cellsOf_cropLine_le (width : Nat) (chars : List Char) :
    cellsOf (cropLine width chars) ≤ width := by
  induction chars generalizing width with
  | nil => exact Nat.zero_le width
  | cons char chars ih =>
      rw [cropLine]
      split
      · have hrest := ih (width - cellWidth char)
        change cellWidth char + cellsOf (cropLine (width - cellWidth char) chars) ≤ width
        omega
      · exact Nat.le_of_eq (cellsOf_blanks width)

/-- No line reaches over the end of the console. -/
theorem cellsOf_le_of_mem_layOut (hline : line ∈ layOut width chars) : cellsOf line ≤ width := by
  obtain ⟨_, -, hwrap⟩ := List.mem_flatMap.mp hline
  obtain ⟨part, -, rfl⟩ := List.mem_map.mp hwrap
  exact cellsOf_cropLine_le width _

theorem expandTabs_of_isPrintable (hprintable : ∀ char ∈ chars, isPrintable char = true)
    (column : Nat) : expandTabs column chars = chars := by
  induction chars generalizing column with
  | nil => rfl
  | cons char chars ih =>
      have htab : char ≠ '\t' := ne_of_isPrintable (hprintable char List.mem_cons_self) (by decide)
      rw [expandTabs.eq_3 _ _ _ htab,
        ih (fun other hother => hprintable other (List.mem_cons_of_mem _ hother))]

theorem cellsOf_of_isPrintable (hprintable : ∀ char ∈ chars, isPrintable char = true) :
    cellsOf chars = chars.length := by
  induction chars with
  | nil => rfl
  | cons char chars ih =>
      have hcode := hprintable char List.mem_cons_self
      rw [isPrintable] at hcode
      have hrest := ih fun other hother => hprintable other (List.mem_cons_of_mem _ hother)
      change cellWidth char + cellsOf chars = _
      rw [cellWidth, if_pos hcode, hrest, List.length_cons, Nat.add_comm]

/-- Printable characters take one line exactly if there is room for them. -/
theorem layOut_eq_self_iff (hprintable : ∀ char ∈ chars, isPrintable char = true) :
    layOut width chars = [chars] ↔ chars.length ≤ width := by
  have hcells := cellsOf_of_isPrintable hprintable
  constructor
  · intro hlayOut
    rw [← hcells]
    exact cellsOf_le_of_mem_layOut (hlayOut ▸ List.mem_cons_self)
  · intro hfits
    have hline : '\n' ∉ chars := fun hchar => ne_of_isPrintable (hprintable _ hchar) (by decide) rfl
    have hblanks : dropBlanks width chars = chars := by
      rw [dropBlanks, Nat.sub_eq_zero_of_le hfits, Nat.min_zero, Nat.sub_zero, List.take_length]
    rw [layOut, List.splitOn_eq_singleton hline, List.flatMap_singleton,
      expandTabs_of_isPrintable hprintable, wrap, if_pos (hcells ▸ hfits), List.map_singleton,
      hblanks, cropLine_of_fits (hcells ▸ hfits)]

end Lines

/-- A printable text that the console spares and has room for is one line. -/
theorem lines_of_spares {console : Console} {text : String}
    (hprintable : ∀ char ∈ text.toList, isPrintable char = true)
    (hspares : console.Spares text.toList) (hfits : text.length ≤ console.width) :
    ∃ runs, readMarkup text = .ok runs ∧ console.lines runs = [text] := by
  obtain ⟨runs, hread, hshown⟩ := (shown_eq_self_iff hprintable).mpr hspares
  have hlength : text.toList.length ≤ console.width := by
    rw [String.length_toList]
    exact hfits
  refine ⟨runs, hread, ?_⟩
  rw [lines, hshown, (layOut_eq_self_iff hprintable).mpr hlength, List.map_singleton,
    String.ofList_toList]

end BucketAccess.Console
