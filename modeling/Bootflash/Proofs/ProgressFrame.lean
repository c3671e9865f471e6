import Bootflash.Progress

namespace Bootflash.Progress

section

variable {text label : List Char} {place i : Nat}

theorem length_overwrite (h : place + label.length ≤ text.length) :
    (overwrite text label place).length = text.length := by
  simp only [overwrite, List.length_append, List.length_take, List.length_drop]
  omega

theorem prefix_overwrite {first : List Char} (h : first <+: text) (hplace : first.length ≤ place) :
    first <+: overwrite text label place := by
  rw [overwrite, List.append_assoc]
  exact (List.prefix_take_iff.mpr ⟨h, hplace⟩).trans (List.prefix_append _ _)

/-- Where the label lies nothing else is to be seen. -/
theorem getElem?_overwrite_of_covered (hlow : place ≤ i) (hhigh : i < place + label.length)
    (hplace : place ≤ text.length) :
    (overwrite text label place)[i]? = label[i - place]? := by
  have htake : (text.take place).length = place := by
    rw [List.length_take]
    omega
  rw [overwrite, List.append_assoc, List.getElem?_append_right (by omega), htake,
    List.getElem?_append_left (by omega)]

theorem getElem?_overwrite_of_ge (hi : place + label.length ≤ i) (hplace : place ≤ text.length) :
    (overwrite text label place)[i]? = text[i]? := by
  have htake : (text.take place).length = place := by
    rw [List.length_take]
    omega
  rw [overwrite, List.getElem?_append_right (by rw [List.length_append]; omega), List.length_append,
    htake, List.getElem?_drop]
  congr 1
  omega

end

/-- The percentage as it is written over the bar. -/
def label (percent : Nat) : List Char :=
  [' '] ++ Nat.toDigits 10 percent ++ ['%', ' ']

/-- The middle of the bar, where the last digit goes. -/
def middle (places : Nat) : Nat :=
  (places + 3) / 2

/-- The bar has room for the label. -/
def Labelled (percent places : Nat) : Prop :=
  (Nat.toDigits 10 percent).length ≤ middle places ∧ middle places ≤ places

section

variable {percent places hashes : Nat}

theorem length_label (percent : Nat) : (label percent).length = (Nat.toDigits 10 percent).length + 3 := by
  simp [label]

/-- There is no bracket in a label. -/
theorem not_mem_label {c : Char} (hbracket : c = '[' ∨ c = ']') : c ∉ label percent := by
  intro h
  simp only [label, List.mem_append, List.mem_cons, List.not_mem_nil, or_false] at h
  have hdigit : c.isDigit = false := by rcases hbracket with rfl | rfl <;> rfl
  rcases h with (h | h) | h | h
  · rcases hbracket with rfl | rfl <;> cases h
  · exact absurd (Nat.isDigit_of_mem_toDigits (by decide) (by decide) h) (by simp [hdigit])
  · rcases hbracket with rfl | rfl <;> cases h
  · rcases hbracket with rfl | rfl <;> cases h

theorem length_bar (h : hashes ≤ places) : (bar places hashes).length = places + 3 := by
  simp only [bar, List.length_append, List.length_replicate, List.length_cons, List.length_nil]
  omega

theorem getElem?_bar_last (h : hashes ≤ places) : (bar places hashes)[places + 2]? = some ']' := by
  have hfront : ([' ', '['] ++ List.replicate hashes '#' ++
      List.replicate (places - hashes) ' ').length = places + 2 := by
    simp only [List.length_append, List.length_replicate, List.length_cons, List.length_nil]
    omega
  rw [bar, ← hfront, List.getElem?_concat_length]

theorem frame_of_labelled (h : hashes ≤ places) (hlabelled : Labelled percent places) :
    frame percent places hashes =
      overwrite (bar places hashes) (label percent) (middle places - (Nat.toDigits 10 percent).length) := by
  obtain ⟨hdigits, hmiddle⟩ := hlabelled
  unfold middle at *
  change (if (bar places hashes).length / 2 < _ ∨
    _ + (label percent).length > (bar places hashes).length then _ else _) = _
  rw [length_bar h, length_label, if_neg (by omega)]
  rfl

theorem frame_of_unlabelled (h : hashes ≤ places) (hunlabelled : ¬Labelled percent places) :
    frame percent places hashes = bar places hashes := by
  unfold Labelled middle at hunlabelled
  change (if (bar places hashes).length / 2 < _ ∨
    _ + (label percent).length > (bar places hashes).length then _ else _) = _
  rw [length_bar h, length_label, if_pos (by omega)]

theorem length_frame (h : hashes ≤ places) : (frame percent places hashes).length = places + 3 := by
  by_cases hlabelled : Labelled percent places
  · rw [frame_of_labelled h hlabelled, length_overwrite, length_bar h]
    obtain ⟨hdigits, hmiddle⟩ := hlabelled
    rw [length_label, length_bar h]
    omega
  · rw [frame_of_unlabelled h hlabelled, length_bar h]

/-- The opening bracket is to be seen unless there is a label and it begins too far to the left. -/
theorem opening_iff (h : hashes ≤ places) :
    [' ', '['] <+: frame percent places hashes ↔
      (Labelled percent places → (Nat.toDigits 10 percent).length + 2 ≤ middle places) := by
  have hopen : [' ', '['] <+: bar places hashes := by
    rw [bar, List.append_assoc, List.append_assoc]
    exact List.prefix_append _ _
  by_cases hlabelled : Labelled percent places
  · have ⟨hdigits, hmiddle⟩ := hlabelled
    have hlength := length_label percent
    have hbar := length_bar h
    rw [frame_of_labelled h hlabelled]
    constructor
    · intro hprefix _
      refine Nat.le_of_not_lt fun hcovered => ?_
      have hbracket := List.prefix_iff_getElem?.mp hprefix 1 (by decide)
      rw [getElem?_overwrite_of_covered (by omega) (by omega) (by omega)] at hbracket
      exact not_mem_label (.inl rfl) (List.mem_of_getElem? hbracket)
    · intro hroom
      have hplace := hroom hlabelled
      exact prefix_overwrite hopen (by simp only [List.length_cons, List.length_nil]; omega)
  · rw [frame_of_unlabelled h hlabelled]
    exact ⟨fun _ hlabelled' => absurd hlabelled' hlabelled, fun _ => hopen⟩

/-- The closing bracket is to be seen unless there is a label and it goes on to the end. -/
theorem closing_iff (h : hashes ≤ places) :
    [']'] <:+ frame percent places hashes ↔ (Labelled percent places → middle places < places) := by
  rw [List.singleton_suffix_iff_getLast?_eq_some, List.getLast?_eq_getElem?, length_frame h]
  change (frame percent places hashes)[places + 2]? = _ ↔ _
  by_cases hlabelled : Labelled percent places
  · have ⟨hdigits, hmiddle⟩ := hlabelled
    have hlength := length_label percent
    have hbar := length_bar h
    rw [frame_of_labelled h hlabelled]
    constructor
    · intro hlast _
      refine Nat.lt_of_le_of_ne hmiddle fun hcovered => ?_
      rw [getElem?_overwrite_of_covered (by omega) (by omega) (by omega)] at hlast
      exact not_mem_label (.inr rfl) (List.mem_of_getElem? hlast)
    · intro hroom
      have hplace := hroom hlabelled
      rw [getElem?_overwrite_of_ge (by omega) (by omega), getElem?_bar_last h]
  · rw [frame_of_unlabelled h hlabelled, getElem?_bar_last h]
    exact ⟨fun _ hlabelled' => absurd hlabelled' hlabelled, fun _ => rfl⟩

end

/-- How many digits a percentage has. -/
theorem length_toDigits {percent : Nat} (h : percent ≤ 100) :
    percent < 10 ∧ (Nat.toDigits 10 percent).length = 1 ∨
      10 ≤ percent ∧ percent < 100 ∧ (Nat.toDigits 10 percent).length = 2 ∨
      percent = 100 ∧ (Nat.toDigits 10 percent).length = 3 := by
  have hpositive : 0 < (Nat.toDigits 10 percent).length := Nat.length_toDigits_pos
  have hone := Nat.length_toDigits_le_iff (n := percent) (k := 1) (b := 10) (by decide) (by decide)
  have htwo := Nat.length_toDigits_le_iff (n := percent) (k := 2) (b := 10) (by decide) (by decide)
  have hthree := Nat.length_toDigits_le_iff (n := percent) (k := 3) (b := 10) (by decide) (by decide)
  omega

/-- The bar keeps the length that its width asks for. Its brackets stay as well, but at five widths:
there the label has room in the bar as a whole though not between the brackets, and lies over the
opening one, or the closing one, or both. -/
theorem render_frame {done total width : Int} (hpercent : percent done total ≤ 100)
    (hhashes : hashes (percent done total) (places width) ≤ places width) :
    let text := (render done total width).toList
    (text.length : Int) = max (width - 2) 1 + 3 ∧
    ([' ', '['] <+: text ↔
      ¬(width = 4 ∧ percent done total < 100 ∨ (width = 5 ∨ width = 6) ∧ 10 ≤ percent done total ∨
      (width = 7 ∨ width = 8) ∧ percent done total = 100)) ∧
    ([']'] <:+ text ↔ ¬(width = 4 ∧ percent done total < 100 ∨ width = 5)) := by
  intro text
  have htext : text = frame (percent done total) (places width)
      (hashes (percent done total) (places width)) :=
    String.toList_ofList
  have hplaces : (places width : Int) = max (width - 2) 1 := Int.toNat_of_nonneg (by omega)
  have hdigits := length_toDigits hpercent
  rw [htext, length_frame hhashes, opening_iff hhashes, closing_iff hhashes, Labelled, middle]
  refine ⟨?_, ?_, ?_⟩ <;> omega

/-- The narrowest bar with room for two digits between its brackets. -/
theorem render_frame_snug :
    percent 1 3 ≤ 100 ∧ hashes (percent 1 3) (places 7) ≤ places 7 ∧ (render 1 3 7).toList.length = 8 ∧
      [' ', '['] <+: (render 1 3 7).toList ∧ [']'] <:+ (render 1 3 7).toList := by
  have hpercent : percent 1 3 = 33 := by decide
  have hhashes : hashes (percent 1 3) (places 7) ≤ places 7 := by decide
  obtain ⟨hlength, hopening, hclosing⟩ := render_frame (by rw [hpercent]; decide) hhashes
  rw [hpercent] at hopening hclosing
  exact ⟨by rw [hpercent]; decide, hhashes, Int.ofNat_inj.mp hlength, hopening.mpr (by decide),
    hclosing.mpr (by decide)⟩

/-- At width 4 the label takes the whole bar but its first place, and with it both brackets. -/
theorem render_over_brackets :
    percent 0 10 ≤ 100 ∧ hashes (percent 0 10) (places 4) ≤ places 4 ∧ render 0 10 4 = "  0% " ∧
      ¬[' ', '['] <+: (render 0 10 4).toList ∧ ¬[']'] <:+ (render 0 10 4).toList := by
  decide

end Bootflash.Progress
