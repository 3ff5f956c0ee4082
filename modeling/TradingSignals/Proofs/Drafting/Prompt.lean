import TradingSignals.Drafting.Chat
import TradingSignals.Proofs.Related

namespace TradingSignals

namespace Template

variable {values values' : List (String × String)} {cs ds xs ys : List Char}
  {ps qs : List TemplatePiece}

/-- Templates are cut into pieces one after the other. -/
theorem pieces?_append {name : Option (List Char)} (hc : pieces? name cs = some ps)
    (hd : pieces? none ds = some qs) : pieces? name (cs ++ ds) = some (ps ++ qs) := by
  fun_induction pieces? name cs generalizing ps with
  | case1 =>
    cases hc
    exact hd
  | case2 cs ih =>
    obtain ⟨ps, hps, rfl⟩ := Option.map_eq_some_iff.1 hc
    rw [List.cons_append, List.cons_append, pieces?, ih hps]
    rfl
  | case3 cs ih =>
    obtain ⟨ps, hps, rfl⟩ := Option.map_eq_some_iff.1 hc
    rw [List.cons_append, List.cons_append, pieces?, ih hps]
    rfl
  | case4 cs hne ih =>
    rw [List.cons_append, pieces?]
    · exact ih hc
    · intro more he
      cases cs with
      | nil => cases hc
      | cons c cs =>
        cases he
        exact hne cs rfl
  | case5 => cases hc
  | case6 c cs hopen hclose hc' hd' ih =>
    obtain ⟨ps, hps, rfl⟩ := Option.map_eq_some_iff.1 hc
    rw [List.cons_append, pieces?, ih hps]
    · rfl
    · exact fun more h => absurd h hc'
    · exact fun more h => absurd h hd'
    · exact hc'
    · exact hd'
  | case7 => cases hc
  | case8 => cases hc
  | case9 name cs ih =>
    obtain ⟨ps, hps, rfl⟩ := Option.map_eq_some_iff.1 hc
    rw [List.cons_append, pieces?, ih hps]
    rfl
  | case10 name c cs hopen hclose ih =>
    rw [List.cons_append, pieces?]
    · exact ih hc
    · exact hopen
    · exact hclose

theorem fill?_append (hp : fill? values ps = some xs) (hq : fill? values qs = some ys) :
    fill? values (ps ++ qs) = some (xs ++ ys) := by
  induction ps generalizing xs with
  | nil =>
    cases hp
    exact hq
  | cons p ps ih =>
    cases p with
    | char c =>
      obtain ⟨xs, hxs, rfl⟩ := Option.map_eq_some_iff.1 hp
      rw [List.cons_append, fill?, ih hxs]
      rfl
    | field name =>
      obtain ⟨v, hv, hp⟩ := Option.bind_eq_some_iff.1 hp
      obtain ⟨xs, hxs, rfl⟩ := Option.map_eq_some_iff.1 hp
      rw [List.cons_append, fill?, hv, Option.bind_some, ih hxs, List.append_assoc]
      rfl

/-- With more values a template is filled in the same way. -/
theorem fill?_mono (h : ∀ k v, values.lookup k = some v → values'.lookup k = some v)
    (hp : fill? values ps = some xs) : fill? values' ps = some xs := by
  induction ps generalizing xs with
  | nil => exact hp
  | cons p ps ih =>
    cases p with
    | char c =>
      obtain ⟨xs, hxs, rfl⟩ := Option.map_eq_some_iff.1 hp
      rw [fill?, ih hxs]
      rfl
    | field name =>
      obtain ⟨v, hv, hp⟩ := Option.bind_eq_some_iff.1 hp
      obtain ⟨xs, hxs, rfl⟩ := Option.map_eq_some_iff.1 hp
      rw [fill?, h _ _ hv, Option.bind_some, ih hxs]
      rfl

theorem format?_mono (h : ∀ k v, values.lookup k = some v → values'.lookup k = some v)
    (hc : format? values cs = some xs) : format? values' cs = some xs := by
  obtain ⟨ps, hps, hfill⟩ := Option.bind_eq_some_iff.1 hc
  exact Option.bind_eq_some_iff.2 ⟨ps, hps, fill?_mono h hfill⟩

theorem format?_append (hc : format? values cs = some xs) (hd : format? values ds = some ys) :
    format? values (cs ++ ds) = some (xs ++ ys) := by
  obtain ⟨ps, hps, hfill⟩ := Option.bind_eq_some_iff.1 hc
  obtain ⟨qs, hqs, hfill'⟩ := Option.bind_eq_some_iff.1 hd
  exact Option.bind_eq_some_iff.2 ⟨ps ++ qs, pieces?_append hps hqs, fill?_append hfill hfill'⟩

/-- A template of several lines is filled line by line. -/
theorem format?_intercalate {sep : List Char} {lines filled : List (List Char)}
    (hs : format? values sep = some sep)
    (h : List.Forall₂ (fun l r => format? values l = some r) lines filled) :
    format? values (sep.intercalate lines) = some (sep.intercalate filled) := by
  induction h with
  | nil => rfl
  | @cons l r lines filled hl htail ih =>
    cases htail with
    | nil => simpa using hl
    | cons =>
      rw [List.intercalate_cons_cons, List.intercalate_cons_cons]
      exact format?_append (format?_append hl hs) ih

end Template

/-- What stands before and behind a text that is put among others does not depend on it. -/
theorem exists_intercalate {α : Type} (sep : List α) (above below : List (List α)) :
    ∃ before after, ∀ xs, sep.intercalate (above ++ xs :: below) = before ++ (xs ++ after) := by
  induction above with
  | nil =>
    cases below with
    | nil => exact ⟨[], [], fun xs => by simp⟩
    | cons ys below =>
      refine ⟨[], sep ++ sep.intercalate (ys :: below), fun xs => ?_⟩
      rw [List.nil_append, List.intercalate_cons_cons, List.append_assoc]
      rfl
  | cons ys above ih =>
    obtain ⟨before, after, h⟩ := ih
    refine ⟨ys ++ (sep ++ before), after, fun xs => ?_⟩
    rw [List.cons_append, List.intercalate_cons_of_ne_nil (by simp), h]
    simp

namespace Prompt

/-- The lines that only need a version are whole templates themselves. -/
theorem format?_line : ∀ l ∈ lines.take 3 ++ lines.drop 4,
    (Template.format? [("version", currentVersion)] l.toList).isSome := by
  simp only [lines, List.take_succ_cons, List.take_zero, List.drop_succ_cons, List.drop_zero,
    List.cons_append, List.nil_append, List.forall_mem_cons, List.not_mem_nil, false_implies,
    implies_true, and_true, String.toList_append]
  -- the characters of a literal are known, and need not be computed
  repeat' apply And.intro
  all_goals
    repeat rw [String.toList_ofList]
    decide +kernel

/-- A line with the version filled in. -/
def filledLine (l : String) : List Char :=
  (Template.format? [("version", currentVersion)] l.toList).getD []

variable {registry : String}

theorem lookup_version : ∀ k v, [("version", currentVersion)].lookup k = some v →
    [("registry", registry), ("version", currentVersion)].lookup k = some v := by
  intro k v h
  rw [List.lookup_cons] at h
  cases hk : k == "version" with
  | false =>
    rw [hk] at h
    cases h
  | true =>
    rw [eq_of_beq hk] at h ⊢
    exact h

theorem format?_filledLine {l : String} (hl : l ∈ lines.take 3 ++ lines.drop 4) :
    Template.format? [("registry", registry), ("version", currentVersion)] l.toList =
      some (filledLine l) := by
  obtain ⟨xs, hxs⟩ := Option.isSome_iff_exists.1 (format?_line l hl)
  rw [filledLine, hxs]
  exact Template.format?_mono lookup_version hxs

theorem format?_registry :
    Template.format? [("registry", registry), ("version", currentVersion)]
      "\x7bregistry\x7d".toList = some registry.toList := by
  rw [String.toList_ofList]
  have hfill : Template.fill? [("registry", registry), ("version", currentVersion)]
      [.field ['r', 'e', 'g', 'i', 's', 't', 'r', 'y']] = some (registry.toList ++ []) := rfl
  rw [List.append_nil] at hfill
  exact hfill

end Prompt

/-- Whatever the registry is, with whatever braces, it stands in the message as it is, and all
around it is always the same. -/
theorem systemPrompt_eq :
    ∃ before after : String, ∀ registry, systemPrompt registry = before ++ registry ++ after := by
  obtain ⟨before, after, h⟩ := exists_intercalate ['\n']
    ((Prompt.lines.take 3).map Prompt.filledLine) ((Prompt.lines.drop 4).map Prompt.filledLine)
  refine ⟨String.ofList before, String.ofList after, fun registry => ?_⟩
  have hlines : List.Forall₂ (fun l r => Template.format?
        [("registry", registry), ("version", currentVersion)] l = some r)
      (Prompt.lines.map String.toList)
      ((Prompt.lines.take 3).map Prompt.filledLine ++
        registry.toList :: (Prompt.lines.drop 4).map Prompt.filledLine) := by
    have hfixed : ∀ ls ⊆ Prompt.lines.take 3 ++ Prompt.lines.drop 4,
        List.Forall₂ (fun l r => Template.format?
          [("registry", registry), ("version", currentVersion)] l = some r)
          (ls.map String.toList) (ls.map Prompt.filledLine) := by
      intro ls hls
      rw [List.forall₂_map_left_iff, List.forall₂_map_right_iff, List.forall₂_same]
      exact fun l hl => Prompt.format?_filledLine (hls hl)
    have hsplit : Prompt.lines.map String.toList = (Prompt.lines.take 3).map String.toList ++
        "\x7bregistry\x7d".toList :: (Prompt.lines.drop 4).map String.toList := rfl
    rw [hsplit]
    exact List.rel_append (hfixed _ (List.subset_append_left _ _))
      (.cons Prompt.format?_registry (hfixed _ (List.subset_append_right _ _)))
  have htemplate : Prompt.template.toList =
      ['\n'].intercalate (Prompt.lines.map String.toList) := by
    rw [Prompt.template, String.toList_intercalate, String.toList_ofList]
  rw [systemPrompt, htemplate, Template.format?_intercalate rfl hlines, Option.getD_some, h,
    String.ofList_append, String.ofList_append, String.ofList_toList, String.append_assoc]

end TradingSignals
