import Mathlib.Data.List.Chain
import TradingSignals.Environment.EnvFile
import TradingSignals.Environment.Variables
import TradingSignals.Proofs.Text.Lines

namespace TradingSignals

namespace EnvFile

/-- A name that needs no quotes. -/
structure PlainName (cs : List Char) : Prop where
  ne_nil : cs ≠ []
  chars : ∀ c ∈ cs, isSpace c = false ∧ c ∉ ['=', '#', '\x00']
  unquoted : cs.head? ≠ some '\''

/-- A value that stands for itself: within one line, without quotes around it, a note behind it or
a reference in it. -/
structure PlainValue (cs : List Char) : Prop where
  chars : ∀ c ∈ cs, c ∉ ['\n', '\r', '\x00']
  first : ∀ c ∈ cs.head?, isSpace c = false ∧ c ∉ ['\'', '"']
  last : ∀ c ∈ cs.getLast?, isSpace c = false
  no_note : cs.IsChain fun c d => ¬(isSpace c ∧ d = '#')
  no_reference : cs.IsChain fun c d => ¬(c = '$' ∧ d = '{')

theorem plainName_iff {cs : List Char} : PlainName cs ↔
    cs ≠ [] ∧ cs.all (fun c => !isSpace c && c ∉ ['=', '#', '\x00']) ∧ cs.head? ≠ some '\'' := by
  simp only [List.all_eq_true, Bool.and_eq_true, Bool.not_eq_true', decide_eq_true_eq]
  exact ⟨fun ⟨hn, hc, hu⟩ => ⟨hn, hc, hu⟩, fun ⟨hn, hc, hu⟩ => ⟨hn, hc, hu⟩⟩

theorem plainValue_iff {cs : List Char} : PlainValue cs ↔
    cs.all (fun c => c ∉ ['\n', '\r', '\x00']) ∧
      cs.head?.all (fun c => !isSpace c && c ∉ ['\'', '"']) ∧
      cs.getLast?.all (fun c => !isSpace c) ∧
      cs.IsChain (fun c d => ¬(isSpace c ∧ d = '#')) ∧
      cs.IsChain fun c d => ¬(c = '$' ∧ d = '{') := by
  simp only [List.all_eq_true, Option.all_eq_true, Bool.and_eq_true, Bool.not_eq_true',
    decide_eq_true_eq]
  exact ⟨fun ⟨hc, hf, hl, hn, hr⟩ => ⟨hc, hf, hl, hn, hr⟩,
    fun ⟨hc, hf, hl, hn, hr⟩ => ⟨hc, hf, hl, hn, hr⟩⟩

instance (cs : List Char) : Decidable (PlainName cs) := decidable_of_iff _ plainName_iff.symm

instance (cs : List Char) : Decidable (PlainValue cs) := decidable_of_iff _ plainValue_iff.symm

/-- What stands behind a line: nothing, or its end and other lines. -/
def EndsLine (cs : List Char) : Prop := ∀ c ∈ cs.head?, c = '\n'

section

variable {name value rest : List Char}

/-- A plain name ends at the sign behind it. -/
theorem PlainName.stops (h : PlainName name) :
    (name ++ '=' :: rest).takeWhile (fun c => !(c == '=' || c == '#' || isSpace c)) = name ∧
      (name ++ '=' :: rest).dropWhile (fun c => !(c == '=' || c == '#' || isSpace c)) =
        '=' :: rest := by
  have hgo : ∀ c ∈ name, !(c == '=' || c == '#' || isSpace c) := by
    intro c hc
    obtain ⟨hs, hm⟩ := h.chars c hc
    simp only [List.mem_cons, not_or] at hm
    simp [hs, hm.1, hm.2.1]
  have hstop : ∀ c ∈ ('=' :: rest).head?, (!(c == '=' || c == '#' || isSpace c)) = false := by
    intro c hc
    cases hc
    rfl
  exact ⟨takeWhile_of_stop hgo hstop, dropWhile_of_stop hgo hstop⟩

theorem PlainName.head_append (h : PlainName name) {c : Char} {cs : List Char}
    (he : name ++ '=' :: rest = c :: cs) : c ∈ name ∧ c ≠ '\'' := by
  obtain ⟨d, ds, rfl⟩ := List.exists_cons_of_ne_nil h.ne_nil
  obtain ⟨rfl, -⟩ := List.cons.inj he
  refine ⟨List.mem_cons_self, ?_⟩
  rintro rfl
  exact h.unquoted rfl

theorem takeName_plain (h : PlainName name) :
    takeName (name ++ '=' :: rest) = .ok (some name, '=' :: rest) := by
  have hempty : name.isEmpty = false := List.isEmpty_eq_false_iff.2 h.ne_nil
  unfold takeName
  split
  · next cs he =>
    have hm := (h.chars '#' (h.head_append he).1).2
    exact absurd (by decide) hm
  · next cs he => exact absurd rfl (h.head_append he).2
  · dsimp only
    rw [h.stops.1, h.stops.2, hempty]
    rfl

/-- A name that is the word before a name, or begins like it, is still a name. -/
theorem dropExport_plain (h : PlainName name) :
    dropExport (name ++ '=' :: rest) = name ++ '=' :: rest := by
  unfold dropExport
  split
  · next c cs he =>
    split
    · next hgap =>
      have hs : isSpace c := (Bool.and_eq_true_iff.1 hgap).1
      have hword : ∀ d ∈ ['e', 'x', 'p', 'o', 'r', 't'],
          !(d == '=' || d == '#' || isSpace d) := List.all_eq_true.1 (by decide)
      have hspace : ∀ d ∈ (c :: cs).head?, (!(d == '=' || d == '#' || isSpace d)) = false := by
        intro d hd
        cases hd
        simp [hs]
      have hdrop : (name ++ '=' :: rest).dropWhile _ = '=' :: rest := h.stops.2
      rw [he] at hdrop
      cases (dropWhile_of_stop hword hspace).symm.trans hdrop
      exact absurd hs (by decide)
    · rfl
  · rfl

/-- A note begins at a sign with space before it. -/
theorem head_dropWhile_isSpace {c : Char}
    (h : (c :: value).IsChain fun c d => ¬(isSpace c ∧ d = '#')) (hc : isSpace c) :
    (value.dropWhile isSpace).head? ≠ some '#' := by
  induction value generalizing c with
  | nil => exact nofun
  | cons d value ih =>
    obtain ⟨hcd, hchain⟩ := List.isChain_cons_cons.1 h
    by_cases hd : isSpace d
    · rw [List.dropWhile_cons_of_pos hd]
      exact ih hchain hd
    · rw [List.dropWhile_cons_of_neg hd]
      rintro he
      exact hcd ⟨hc, Option.some.inj he⟩

theorem dropNote_plain (h : value.IsChain fun c d => ¬(isSpace c ∧ d = '#')) :
    dropNote value = value := by
  induction value with
  | nil => rfl
  | cons c value ih =>
    have hnote : (isSpace c && (value.dropWhile isSpace).head? == some '#') = false := by
      by_cases hc : isSpace c
      · simp [hc, head_dropWhile_isSpace h hc]
      · simp [hc]
    rw [dropNote, hnote, if_neg Bool.false_ne_true, ih (List.isChain_of_isChain_cons h)]

theorem dropEndSpace_plain (h : ∀ c ∈ value.getLast?, isSpace c = false) :
    dropEndSpace value = value := by
  have hhead : ∀ c ∈ value.reverse.head?, isSpace c = false := by
    rw [List.head?_reverse]
    exact h
  have hkept : ([] ++ value.reverse).dropWhile isSpace = value.reverse :=
    dropWhile_of_stop (List.forall_mem_nil _) hhead
  rw [List.nil_append] at hkept
  rw [dropEndSpace, hkept, List.reverse_reverse]

theorem dropGap_plain (h : ∀ c ∈ value.head?, isSpace c = false) (hr : EndsLine rest) :
    dropGap (value ++ rest) = value ++ rest := by
  apply dropWhile_of_stop (List.forall_mem_nil _)
  intro c hc
  rw [isGap, Bool.and_eq_false_iff]
  cases value with
  | nil =>
    right
    rw [hr c hc]
    rfl
  | cons d value => exact Or.inl (h c hc)

theorem takeValue_plain (h : PlainValue value) (hr : EndsLine rest) :
    takeValue (value ++ rest) = .ok (value, rest) := by
  have hfirst : ∀ {c cs}, value ++ rest = c :: cs → c ∉ ['\'', '"'] := by
    intro c cs he
    cases value with
    | nil =>
      rw [hr c (by rw [show rest = c :: cs from he]; rfl)]
      decide
    | cons d value =>
      obtain ⟨rfl, -⟩ := List.cons.inj he
      exact (h.first d rfl).2
  have hline : ∀ c ∈ value, c != '\n' := by
    intro c hc
    have hm := h.chars c hc
    simp only [List.mem_cons, not_or] at hm
    simp [hm.1]
  have hend : ∀ c ∈ rest.head?, (c != '\n') = false := by
    intro c hc
    rw [hr c hc]
    rfl
  unfold takeValue
  split
  · next cs he => exact absurd List.mem_cons_self (hfirst he)
  · next cs he => exact absurd (by decide) (hfirst he)
  · rw [takeWhile_of_stop hline hend, dropWhile_of_stop hline hend, dropNote_plain h.no_note,
      dropEndSpace_plain h.last]

theorem takeEnd_plain (hr : EndsLine rest) : takeEnd rest = .ok (rest.drop 1) := by
  have hgap : dropGap ([] ++ rest) = [] ++ rest := dropGap_plain nofun hr
  rw [List.nil_append] at hgap
  rw [takeEnd, hgap]
  cases rest with
  | nil => rfl
  | cons c rest =>
    cases hr c rfl
    rfl

theorem takeAssignment_plain (hn : PlainName name) (hv : PlainValue value) (hr : EndsLine rest) :
    takeAssignment (name ++ '=' :: (value ++ rest)) =
      .ok (some (String.ofList name, some (String.ofList value)), rest.drop 1) := by
  have hsign : dropGap ('=' :: (value ++ rest)) = '=' :: (value ++ rest) := rfl
  have hgap : dropGap (value ++ rest) = value ++ rest :=
    dropGap_plain (fun c hc => (hv.first c hc).1) hr
  simp only [takeAssignment, dropExport_plain hn, takeName_plain hn, bind, Except.bind, hsign,
    hgap, takeValue_plain hv hr, Functor.map, Except.map, takeEnd_plain hr]
  rfl

theorem assignments_plain (hn : PlainName name) (hv : PlainValue value) (hr : EndsLine rest)
    (fuel : Nat) :
    assignments (fuel + 1) (name ++ '=' :: (value ++ rest)) =
      (String.ofList name, some (String.ofList value)) :: assignments fuel (rest.drop 1) := by
  obtain ⟨c, cs, hc⟩ := List.exists_cons_of_ne_nil hn.ne_nil
  have hspace : isSpace c = false := (hn.chars c (hc ▸ List.mem_cons_self)).1
  have htext : name ++ '=' :: (value ++ rest) = c :: (cs ++ '=' :: (value ++ rest)) := by
    rw [hc, List.cons_append]
  have htake := takeAssignment_plain hn hv hr
  rw [htext] at htake
  rw [htext, assignments, List.dropWhile_cons_of_neg (by simp [hspace])]
  simp only [htake, Option.toList_some, List.singleton_append]

end

/-- A file of plain lines; the last one need not be ended. -/
structure PlainLines (pairs : List (String × String)) (s : String) : Prop where
  plain : ∀ a ∈ pairs, PlainName a.1.toList ∧ PlainValue a.2.toList
  joined : ∃ ending, (ending = "" ∨ ending = "\n") ∧
    s = String.intercalate "\n" (pairs.map fun a => a.1 ++ "=" ++ a.2) ++ ending

def lineChars (a : String × String) : List Char := a.1.toList ++ '=' :: a.2.toList

section

variable {pairs : List (String × String)} {ending : List Char}

theorem assignments_blank (he : ending = [] ∨ ending = ['\n']) (fuel : Nat) :
    assignments fuel ending = [] := by
  cases fuel with
  | zero => rfl
  | succ fuel => rcases he with rfl | rfl <;> rfl

/-- Every line is read as one assignment. -/
theorem assignments_lines (h : ∀ a ∈ pairs, PlainName a.1.toList ∧ PlainValue a.2.toList)
    (he : ending = [] ∨ ending = ['\n']) {fuel : Nat}
    (hf : (['\n'].intercalate (pairs.map lineChars) ++ ending).length ≤ fuel) :
    assignments fuel (['\n'].intercalate (pairs.map lineChars) ++ ending) =
      pairs.map fun a => (a.1, some a.2) := by
  induction pairs generalizing fuel with
  | nil => exact assignments_blank he fuel
  | cons a pairs ih =>
    obtain ⟨⟨hn, hv⟩, hrest⟩ := List.forall_mem_cons.1 h
    -- behind the line stands the ending, or the end of the line and the other lines
    obtain ⟨tail, htext, hends, hlater⟩ : ∃ tail,
        ['\n'].intercalate ((a :: pairs).map lineChars) ++ ending =
          a.1.toList ++ '=' :: (a.2.toList ++ tail) ∧ EndsLine tail ∧
        ∀ f, (tail.drop 1).length ≤ f →
          assignments f (tail.drop 1) = pairs.map fun a => (a.1, some a.2) := by
      cases pairs with
      | nil =>
        refine ⟨ending, by simp [lineChars], ?_, fun f _ => ?_⟩
        · intro c hc
          rcases he with rfl | rfl <;> cases hc
          rfl
        · rcases he with rfl | rfl <;> exact assignments_blank (Or.inl rfl) f
      | cons b pairs =>
        refine ⟨'\n' :: (['\n'].intercalate ((b :: pairs).map lineChars) ++ ending), ?_, ?_, ?_⟩
        · simp [lineChars, List.intercalate_cons_cons]
        · intro c hc
          cases hc
          rfl
        · intro f hf
          exact ih hrest hf
    rw [htext] at hf ⊢
    simp only [List.length_append, List.length_cons] at hf
    obtain ⟨f, rfl⟩ : ∃ f, fuel = f + 1 := ⟨fuel - 1, by omega⟩
    have hf' : (tail.drop 1).length ≤ f := by
      rw [List.length_drop]
      omega
    rw [assignments_plain hn hv hends, hlater f hf', String.ofList_toList, String.ofList_toList,
      List.map_cons]

theorem plainLines_of_no_return {cs : List Char} (h : '\r' ∉ cs) : plainLines cs = cs := by
  fun_induction plainLines cs with
  | case1 => rfl
  | case2 c =>
    have hc : c ≠ '\r' := fun he => h (he ▸ List.mem_cons_self)
    rw [if_neg hc]
  | case3 c d cs hcd ih => exact absurd (hcd.1 ▸ List.mem_cons_self) h
  | case4 c d cs hcd ih =>
    have hc : c ≠ '\r' := fun he => h (he ▸ List.mem_cons_self)
    rw [if_neg hc, ih fun hm => h (List.mem_cons_of_mem c hm)]

theorem mem_intercalate {mark c : Char} {texts : List (List Char)}
    (h : c ∈ [mark].intercalate texts) : c = mark ∨ ∃ t ∈ texts, c ∈ t := by
  induction texts with
  | nil => cases h
  | cons t texts ih =>
    cases texts with
    | nil =>
      rw [List.intercalate_singleton] at h
      exact Or.inr ⟨t, List.mem_cons_self, h⟩
    | cons u texts =>
      rw [List.intercalate_cons_cons, List.append_assoc, List.mem_append, List.mem_append,
        List.mem_singleton] at h
      rcases h with h | h | h
      · exact Or.inr ⟨t, List.mem_cons_self, h⟩
      · exact Or.inl h
      · exact (ih h).imp_right fun ⟨v, hv, hc⟩ => ⟨v, List.mem_cons_of_mem t hv, hc⟩

theorem return_not_mem_lineChars {a : String × String} (hn : PlainName a.1.toList)
    (hv : PlainValue a.2.toList) : '\r' ∉ lineChars a := by
  intro h
  rcases List.mem_append.1 h with h | h
  · exact absurd (hn.chars _ h).1 (by decide)
  rcases List.mem_cons.1 h with h | h
  · cases h
  · exact absurd (by decide) (hv.chars _ h)

/-- Plain lines are read as the names and values that are written in them. -/
theorem read_plainLines {s : String} (h : PlainLines pairs s) :
    read s = pairs.map fun a => (a.1, some a.2) := by
  obtain ⟨ending, he, htext⟩ : ∃ ending : List Char, (ending = [] ∨ ending = ['\n']) ∧
      s.toList = ['\n'].intercalate (pairs.map lineChars) ++ ending := by
    obtain ⟨ending, he, rfl⟩ := h.joined
    have hline : ∀ a : String × String, (a.1 ++ "=" ++ a.2).toList = lineChars a := by
      intro a
      simp [lineChars]
    refine ⟨ending.toList, he.imp (congrArg String.toList) (congrArg String.toList), ?_⟩
    rw [String.toList_append, String.toList_intercalate, List.map_map]
    exact congrArg (· ++ ending.toList)
      (congrArg (['\n'].intercalate ·) (List.map_congr_left fun a _ => hline a))
  have hreturn : '\r' ∉ s.toList := by
    rw [htext, List.mem_append]
    rintro (hc | hc)
    · rcases mem_intercalate hc with hc | ⟨t, ht, hc⟩
      · cases hc
      · obtain ⟨a, ha, rfl⟩ := List.mem_map.1 ht
        exact return_not_mem_lineChars (h.plain a ha).1 (h.plain a ha).2 hc
    · rcases he with rfl | rfl <;> exact absurd hc (by decide)
  rw [read, plainLines_of_no_return hreturn, htext]
  exact assignments_lines h.plain he (Nat.le_refl _)

end

end EnvFile

/-- A text without the beginning of a reference has nothing to be replaced in it. -/
theorem fillIn_plain {meaning : Reference → String} {fuel : Nat} {cs : List Char}
    (h : cs.IsChain fun c d => ¬(c = '$' ∧ d = '{')) (hf : cs.length ≤ fuel) :
    fillIn meaning fuel cs = cs := by
  fun_induction fillIn meaning fuel cs with
  | case1 => rfl
  | case2 cs hcs => exact (List.eq_nil_of_length_eq_zero (Nat.le_zero.1 hf)).symm
  | case3 => exact absurd ⟨rfl, rfl⟩ (List.isChain_cons_cons.1 h).1
  | case4 => exact absurd ⟨rfl, rfl⟩ (List.isChain_cons_cons.1 h).1
  | case5 fuel c cs _ ih =>
    rw [ih (List.isChain_of_isChain_cons h) (Nat.le_of_succ_le_succ hf)]

theorem Variables.fill_plain (env : Variables) {pairs : List (String × String)}
    (h : ∀ a ∈ pairs, EnvFile.PlainValue a.2.toList) :
    env.fill (pairs.map fun a => (a.1, some a.2)) = pairs.map fun a => (a.1, some a.2) := by
  have hfrom : ∀ (pairs : List (String × String)) (before : List Assignment),
      (∀ a ∈ pairs, EnvFile.PlainValue a.2.toList) →
      env.fillFrom before (pairs.map fun a => (a.1, some a.2)) =
        pairs.map fun a => (a.1, some a.2) := by
    intro pairs
    induction pairs with
    | nil => intro _ _; rfl
    | cons a pairs ih =>
      intro before h
      obtain ⟨hv, hrest⟩ := List.forall_mem_cons.1 h
      have hfilled : fillIn (env.meaning before) a.2.length a.2.toList = a.2.toList :=
        fillIn_plain hv.no_reference (Nat.le_of_eq String.length_toList)
      rw [List.map_cons, fillFrom]
      simp only [Option.map_some, hfilled, String.ofList_toList, ih _ hrest]
  exact hfrom pairs [] h

end TradingSignals
