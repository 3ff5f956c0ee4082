import Mathlib.Data.String.Basic

namespace TradingSignals

section

variable {α : Type} {p : α → Bool} {front back : List α}

/-- A run ends in front of the first member that does not belong to it. -/
theorem takeWhile_of_stop (h : ∀ a ∈ front, p a) (hb : ∀ a ∈ back.head?, p a = false) :
    (front ++ back).takeWhile p = front := by
  rw [List.takeWhile_append_of_pos h]
  cases back with
  | nil => exact List.append_nil front
  | cons a back =>
    rw [List.takeWhile_cons_of_neg, List.append_nil]
    rw [hb a rfl]
    exact Bool.false_ne_true

theorem dropWhile_of_stop (h : ∀ a ∈ front, p a) (hb : ∀ a ∈ back.head?, p a = false) :
    (front ++ back).dropWhile p = back := by
  have := List.takeWhile_append_dropWhile (p := p) (l := front ++ back)
  rw [takeWhile_of_stop h hb] at this
  exact List.append_cancel_left this

end

/-- The lines of a text. -/
def textLines (s : String) : List String := (s.toList.splitOn '\n').map String.ofList

/-- Whether a text stays within one line. -/
def OneLine (s : String) : Prop := '\n' ∉ s.toList

instance (s : String) : Decidable (OneLine s) := inferInstanceAs (Decidable ('\n' ∉ s.toList))

variable {s t : String} {ts : List String}

@[simp] theorem oneLine_append : OneLine (s ++ t) ↔ OneLine s ∧ OneLine t := by
  simp only [OneLine, String.toList_append, List.mem_append, not_or]

theorem textLines_append (s t : String) :
    textLines (s ++ "\n" ++ t) = textLines s ++ textLines t := by
  have hmark : (s ++ "\n" ++ t).toList = s.toList ++ '\n' :: t.toList := by simp
  rw [textLines, hmark, List.splitOn_append_cons_self, List.map_append]
  rfl

theorem textLines_of_oneLine (h : OneLine s) : textLines s = [s] := by
  rw [textLines, List.splitOn_eq_singleton h, List.map_singleton, String.ofList_toList]

theorem length_textLines_pos (s : String) : 0 < (textLines s).length := by
  rw [textLines, List.length_map]
  exact List.length_pos_iff.2 (List.splitOn_ne_nil '\n' s.toList)

theorem length_textLines_eq_one_iff : (textLines s).length = 1 ↔ OneLine s := by
  constructor
  · intro h hm
    obtain ⟨before, after, hs⟩ := List.append_of_mem hm
    have htwo : s = String.ofList before ++ "\n" ++ String.ofList after := by
      rw [← String.toList_inj, hs]
      simp
    rw [htwo, textLines_append, List.length_append] at h
    have hb := length_textLines_pos (String.ofList before)
    have ha := length_textLines_pos (String.ofList after)
    omega
  · intro h
    rw [textLines_of_oneLine h]
    rfl

/-- A joined text has the lines of its parts, in their order. -/
theorem textLines_intercalate (h : ts ≠ []) :
    textLines (String.intercalate "\n" ts) = ts.flatMap textLines := by
  induction ts with
  | nil => exact absurd rfl h
  | cons t ts ih =>
    by_cases ht : ts = []
    · rw [ht, String.intercalate_singleton, List.flatMap_singleton]
    · rw [String.intercalate_cons_of_ne_nil ht, textLines_append, ih ht, List.flatMap_cons]

theorem flatMap_textLines (h : ∀ t ∈ ts, OneLine t) : ts.flatMap textLines = ts := by
  induction ts with
  | nil => rfl
  | cons t ts ih =>
    obtain ⟨ht, hts⟩ := List.forall_mem_cons.1 h
    rw [List.flatMap_cons, textLines_of_oneLine ht, ih hts, List.singleton_append]

/-- No text has less than one line, so that a longer one is not made up for by others. -/
theorem length_flatMap_textLines (ts : List String) :
    ts.length ≤ (ts.flatMap textLines).length ∧
      ((ts.flatMap textLines).length = ts.length ↔ ∀ t ∈ ts, OneLine t) := by
  induction ts with
  | nil => simp
  | cons t ts ih =>
    obtain ⟨hle, hiff⟩ := ih
    have ht := length_textLines_pos t
    rw [List.flatMap_cons, List.length_append, List.length_cons, List.forall_mem_cons, ← hiff,
      ← length_textLines_eq_one_iff]
    constructor
    · omega
    · constructor
      · intro h
        constructor <;> omega
      · rintro ⟨h, hrest⟩
        omega

end TradingSignals
