import Mathlib.Data.List.Infix
import TradingSignals.Environment.FileTree

namespace TradingSignals

section

variable {α : Type} {p : List α → Bool} {l : List (List α)} {d e : List α}
  (h : l.Pairwise fun d e => e <+: d)
include h

/-- Where lists stand before those they begin with, the first one found begins with all that could
be found. -/
theorem prefix_of_find? (hd : l.find? p = some d) (he : e ∈ l) (hp : p e) : e <+: d := by
  obtain ⟨-, front, back, rfl, hfront⟩ := List.find?_eq_some_iff_append.1 hd
  have hback : ∀ b ∈ back, b <+: d := (List.pairwise_cons.1 (List.pairwise_append.1 h).2.1).1
  rcases List.mem_append.1 he with hm | hm
  · have hn := hfront e hm
    rw [hp] at hn
    cases hn
  · rcases List.mem_cons.1 hm with rfl | hm
    · exact List.prefix_refl e
    · exact hback e hm

theorem find?_eq_some_iff_longest :
    l.find? p = some d ↔ d ∈ l ∧ p d ∧ ∀ e ∈ l, p e → e <+: d := by
  constructor
  · intro hd
    exact ⟨List.mem_of_find?_eq_some hd, List.find?_some hd, fun e => prefix_of_find? h hd⟩
  · rintro ⟨hm, hp, hlongest⟩
    obtain ⟨e, he⟩ := Option.isSome_iff_exists.1 (List.find?_isSome.2 ⟨d, hm, hp⟩)
    have hde : d <+: e := prefix_of_find? h he hm hp
    have hed : e <+: d := hlongest e (List.mem_of_find?_eq_some he) (List.find?_some he)
    rw [he, hed.eq_of_length_le hde.length_le]

end

namespace FilePlace

variable {p d : FilePlace}

theorem mem_upward : d ∈ p.upward ↔ d <+: p := by
  unfold upward
  rw [List.mem_map]
  constructor
  · rintro ⟨i, -, rfl⟩
    exact List.take_prefix i p
  · intro h
    have hi : d.length < p.length + 1 := Nat.lt_succ_of_le h.length_le
    exact ⟨d.length, List.mem_reverse.2 (List.mem_range.2 hi), (List.prefix_iff_eq_take.1 h).symm⟩

theorem upward_pairwise (p : FilePlace) : p.upward.Pairwise fun d e => e <+: d := by
  unfold upward
  rw [List.pairwise_map, List.pairwise_reverse]
  apply List.pairwise_lt_range.imp
  intro i j hij
  exact List.take_prefix_take_left (Nat.le_of_lt hij)

end FilePlace

namespace FileTree

variable {tree : FileTree} {start home p d q : FilePlace}

/-- Whether a regular file of variables stands in a directory. -/
def HoldsEnvFile (tree : FileTree) (d : FilePlace) : Prop :=
  ∃ content, tree.state (d ++ [".env"]) = .file content

/-- The deepest directory at or above a place that holds a file of variables. -/
structure Nearest (tree : FileTree) (start d : FilePlace) : Prop where
  above : d <+: start
  holds : tree.HoldsEnvFile d
  deepest : ∀ e, e <+: start → tree.HoldsEnvFile e → e <+: d

theorem state_eq_file_iff {content : List UInt8} :
    tree.state p = .file content ↔ tree.files.lookup p = some content := by
  unfold state
  cases tree.files.lookup p with
  | none =>
    have hne : (if tree.isDir p then FileState.directory else .missing) ≠ .file content := by
      split <;> exact nofun
    simp [hne]
  | some c => simp

theorem isFile_iff : tree.isFile (d ++ [".env"]) ↔ tree.HoldsEnvFile d := by
  simp only [isFile, HoldsEnvFile, state_eq_file_iff, Option.isSome_iff_exists]

/-- The search upward ends at the nearest file, whatever else has its name. -/
theorem nearestEnvFile_eq_some_iff :
    tree.nearestEnvFile start = some q ↔ ∃ d, tree.Nearest start d ∧ q = d ++ [".env"] := by
  rw [nearestEnvFile, List.find?_map, Option.map_eq_some_iff]
  apply exists_congr
  intro d
  rw [find?_eq_some_iff_longest start.upward_pairwise, FilePlace.mem_upward, @eq_comm _ q]
  simp only [FilePlace.mem_upward, Function.comp_apply, isFile_iff]
  apply and_congr_left
  intro _
  exact ⟨fun ⟨ha, hh, hd⟩ => ⟨ha, hh, hd⟩, fun ⟨ha, hh, hd⟩ => ⟨ha, hh, hd⟩⟩

theorem nearestEnvFile_eq_none_iff :
    tree.nearestEnvFile start = none ↔ ∀ d, d <+: start → ¬tree.HoldsEnvFile d := by
  rw [nearestEnvFile, List.find?_map, Option.map_eq_none_iff, List.find?_eq_none]
  simp only [FilePlace.mem_upward, Function.comp_apply, isFile_iff]

end FileTree

end TradingSignals
