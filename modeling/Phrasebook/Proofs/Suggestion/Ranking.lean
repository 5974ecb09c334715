import Mathlib.Data.List.Sort
import Mathlib.Data.Prod.Lex
import Mathlib.Data.String.Basic
import Phrasebook.Proofs.Text.EditDistance
import Phrasebook.Suggestion

/-!
# Suggestions are the front of a ranking

The candidates that resemble a name have one ranking: by distance, equally near ones by their text,
and each candidate once. Sorting brings repeated candidates together, so leaving out those that
repeat their neighbour leaves each one once. What is suggested is the front of the ranking, and it
depends on which candidates there are, and neither on their order nor on their repetition.
-/
namespace Phrasebook

section Repetition
variable {α : Type*} [DecidableEq α]

theorem eraseRepsBy_loop_eq (a : α) (list held : List α) :
    List.eraseRepsBy.loop (· == ·) a list held =
      held.reverse ++ List.eraseRepsBy.loop (· == ·) a list [] := by
  induction list generalizing a held with
  | nil => simp [List.eraseRepsBy.loop]
  | cons b list ih =>
    simp only [List.eraseRepsBy.loop]
    split
    · exact ih a held
    · rw [ih b (a :: held), ih b [a]]
      simp

/-- An element that repeats the one before it is left out. -/
theorem eraseReps_cons_cons (a b : α) (list : List α) :
    (a :: b :: list).eraseReps =
      if a = b then (b :: list).eraseReps else a :: (b :: list).eraseReps := by
  simp only [List.eraseReps, List.eraseRepsBy, List.eraseRepsBy.loop]
  by_cases hab : a = b
  · simp [hab]
  · simp only [beq_eq_false_iff_ne.2 hab, if_neg hab]
    rw [eraseRepsBy_loop_eq]
    rfl

theorem mem_eraseReps {a : α} {list : List α} : a ∈ list.eraseReps ↔ a ∈ list := by
  induction list with
  | nil => rfl
  | cons b list ih =>
    cases list with
    | nil => rfl
    | cons c list =>
      rw [eraseReps_cons_cons]
      by_cases hbc : b = c
      · simp [hbc, ih]
      · simp [hbc, ih]

/-- Where equal elements stand together, leaving out repeated ones leaves all elements different. -/
theorem pairwise_eraseReps {r : α → α → Prop} [Std.Antisymm r] {list : List α}
    (h : list.Pairwise r) : list.eraseReps.Pairwise fun a b => r a b ∧ a ≠ b := by
  induction list with
  | nil => exact .nil
  | cons a list ih =>
    cases list with
    | nil => exact List.pairwise_singleton _ a
    | cons b list =>
      rw [eraseReps_cons_cons]
      obtain ⟨hfirst, hmore⟩ := List.pairwise_cons.1 h
      by_cases hab : a = b
      · rw [if_pos hab]
        exact ih hmore
      · rw [if_neg hab, List.pairwise_cons]
        refine ⟨fun c hc => ?_, ih hmore⟩
        have hmem : c ∈ b :: list := mem_eraseReps.1 hc
        refine ⟨hfirst c hmem, ?_⟩
        rintro rfl
        -- `a` would come again behind `b`, and `b` stands behind `a`
        rcases List.mem_cons.1 hmem with heq | hlater
        · exact hab heq
        · exact hab (Std.Antisymm.antisymm a b (hfirst b List.mem_cons_self)
            ((List.pairwise_cons.1 hmore).1 a hlater))

end Repetition

namespace Suggestion

/-- Whether one text is nearer to a name than another one, or equally near and before it. -/
def Nearer (name a b : String) : Prop :=
  Text.leastEdits name.toList a.toList < Text.leastEdits name.toList b.toList ∨
    Text.leastEdits name.toList a.toList = Text.leastEdits name.toList b.toList ∧ a < b

/-- A list of the candidates that can be reached from a name by few edits, one at least and not more
than two, or one where the name is short. The nearest ones come first. -/
structure IsRanking (name : String) (candidates ranking : List String) : Prop where
  mem_iff : ∀ text, text ∈ ranking ↔
    text ∈ candidates ∧ 1 ≤ Text.leastEdits name.toList text.toList ∧
      Text.leastEdits name.toList text.toList ≤ if name.length ≤ 3 then 1 else 2
  pairwise : ranking.Pairwise (Nearer name)

variable {name : String} {candidates ranking : List String}

/-- The place of a text among those that are near to a name. -/
noncomputable def place (name text : String) : ℕ ×ₗ String :=
  toLex (Text.leastEdits name.toList text.toList, text)

theorem nearer_iff {a b : String} : Nearer name a b ↔ place name a < place name b := by
  rw [Nearer, place, place, Prod.Lex.toLex_lt_toLex]

instance (name : String) : Std.Irrefl (Nearer name) where
  irrefl _ h := lt_irrefl _ (nearer_iff.1 h)

instance (name : String) : Std.Antisymm (Nearer name) where
  antisymm _ _ hab hba := absurd (nearer_iff.1 hab) (lt_asymm (nearer_iff.1 hba))

/-- The candidates alone decide on the ranking, whatever their order and repetition. -/
theorem IsRanking.eq_of_mem_iff {others ranking' : List String}
    (h : IsRanking name candidates ranking) (h' : IsRanking name others ranking')
    (hsame : ∀ candidate, candidate ∈ others ↔ candidate ∈ candidates) : ranking' = ranking := by
  refine h'.pairwise.eq_of_mem_iff h.pairwise fun text => ?_
  rw [h.mem_iff, h'.mem_iff, hsame]

theorem IsRanking.nodup (h : IsRanking name candidates ranking) : ranking.Nodup :=
  h.pairwise.imp fun hnearer heq => (nearer_iff.1 hnearer).ne (congrArg (place name) heq)

/-- The front of a ranking leaves out no candidate that is nearer than one it lists. -/
theorem IsRanking.mem_take_of_lt (h : IsRanking name candidates ranking) {count : Nat}
    {listed candidate : String} (hlisted : listed ∈ ranking.take count)
    (hcandidate : candidate ∈ candidates) (hne : candidate ≠ name)
    (hlt : Text.leastEdits name.toList candidate.toList <
      Text.leastEdits name.toList listed.toList) :
    candidate ∈ ranking.take count := by
  obtain ⟨-, -, hlimit⟩ := (h.mem_iff listed).1 (List.mem_of_mem_take hlisted)
  have hpositive : Text.leastEdits name.toList candidate.toList ≠ 0 := fun hzero =>
    hne (String.toList_inj.1 (Text.leastEdits_eq_zero_iff.1 hzero)).symm
  have hmem : candidate ∈ ranking := (h.mem_iff candidate).2 ⟨hcandidate, by omega, by omega⟩
  rw [← List.take_append_drop count ranking, List.mem_append] at hmem
  refine hmem.resolve_right fun hdropped => ?_
  have hordered := h.pairwise
  rw [← List.take_append_drop count ranking, List.pairwise_append] at hordered
  rcases hordered.2.2 listed hlisted candidate hdropped with hnearer | ⟨hequal, -⟩ <;> omega

/-- The place of a neighbour. -/
def Neighbour.place (neighbour : Neighbour) : ℕ ×ₗ String :=
  toLex (neighbour.distance, neighbour.text)

theorem Neighbour.precedes_iff {a b : Neighbour} :
    a.precedes b = true ↔ a.place ≤ b.place := by
  simp [Neighbour.precedes, Neighbour.place, Prod.Lex.toLex_le_toLex]

theorem Neighbour.eq_of_place_eq {a b : Neighbour} (h : a.place = b.place) : a = b := by
  obtain ⟨hdistance, htext⟩ := Prod.mk.inj (toLex_inj.1 h)
  cases a
  cases b
  exact congrArg₂ Neighbour.mk hdistance htext

instance : Std.Antisymm fun a b : Neighbour => a.precedes b = true where
  antisymm _ _ hab hba := Neighbour.eq_of_place_eq
    (le_antisymm (Neighbour.precedes_iff.1 hab) (Neighbour.precedes_iff.1 hba))

theorem neighbour?_eq_some_iff {candidate : String} {neighbour : Neighbour} :
    neighbour? name candidate = some neighbour ↔
      neighbour = ⟨Text.leastEdits name.toList candidate.toList, candidate⟩ ∧
        1 ≤ neighbour.distance ∧ neighbour.distance ≤ limit name := by
  simp only [neighbour?, Text.editDistance_eq_leastEdits]
  split <;> grind

theorem mem_neighbours {neighbour : Neighbour} :
    neighbour ∈ neighbours name candidates ↔
      neighbour.text ∈ candidates ∧
        neighbour.distance = Text.leastEdits name.toList neighbour.text.toList ∧
        1 ≤ neighbour.distance ∧ neighbour.distance ≤ limit name := by
  simp only [neighbours, mem_eraseReps, List.mem_mergeSort, List.mem_filterMap,
    neighbour?_eq_some_iff]
  constructor
  · rintro ⟨candidate, hmem, rfl, hrange⟩
    exact ⟨hmem, rfl, hrange⟩
  · rintro ⟨hmem, hdistance, hrange⟩
    refine ⟨neighbour.text, hmem, ?_, hrange⟩
    rw [← hdistance]

/-- Neighbours are listed in strict order. -/
theorem pairwise_neighbours (name : String) (candidates : List String) :
    (neighbours name candidates).Pairwise fun a b => a.place < b.place := by
  have hsorted : ((candidates.filterMap (neighbour? name)).mergeSort Neighbour.precedes).Pairwise
      fun a b => a.precedes b = true := by
    refine List.pairwise_mergeSort (fun a b c hab hbc => ?_) (fun a b => ?_) _
    · rw [Neighbour.precedes_iff] at hab hbc ⊢
      exact hab.trans hbc
    · rw [Bool.or_eq_true, Neighbour.precedes_iff, Neighbour.precedes_iff]
      exact le_total a.place b.place
  refine (pairwise_eraseReps hsorted).imp fun ⟨hprecedes, hne⟩ => ?_
  exact lt_of_le_of_ne (Neighbour.precedes_iff.1 hprecedes) (hne ∘ Neighbour.eq_of_place_eq)

theorem isRanking_neighbours (name : String) (candidates : List String) :
    IsRanking name candidates ((neighbours name candidates).map Neighbour.text) where
  mem_iff text := by
    rw [List.mem_map]
    constructor
    · rintro ⟨neighbour, hmem, rfl⟩
      obtain ⟨hcandidate, hdistance, hrange⟩ := mem_neighbours.1 hmem
      rw [← hdistance]
      exact ⟨hcandidate, hrange⟩
    · rintro ⟨hcandidate, hrange⟩
      exact ⟨⟨Text.leastEdits name.toList text.toList, text⟩,
        mem_neighbours.2 ⟨hcandidate, rfl, hrange⟩, rfl⟩
  pairwise := by
    rw [List.pairwise_map]
    refine (pairwise_neighbours name candidates).imp_of_mem fun {a b} ha hb hab => ?_
    obtain ⟨-, hfirst, -⟩ := mem_neighbours.1 ha
    obtain ⟨-, hsecond, -⟩ := mem_neighbours.1 hb
    rwa [nearer_iff, place, place, ← hfirst, ← hsecond]

/-- The suggestions are the first three of the ranking, so no candidate is listed twice, the name is
not listed, no candidate is left out that is nearer than one that is listed, and other lists of the
same candidates give the same suggestions. -/
theorem suggestions_eq_take_ranking (name : String) (candidates : List String) :
    (∃ ranking, IsRanking name candidates ranking ∧
      suggestions name candidates = ranking.take 3) ∧
    (suggestions name candidates).Nodup ∧
    name ∉ suggestions name candidates ∧
    (∀ listed ∈ suggestions name candidates, ∀ candidate ∈ candidates, candidate ≠ name →
      Text.leastEdits name.toList candidate.toList < Text.leastEdits name.toList listed.toList →
      candidate ∈ suggestions name candidates) ∧
    ∀ others : List String, (∀ candidate, candidate ∈ others ↔ candidate ∈ candidates) →
      suggestions name others = suggestions name candidates := by
  have hfront (candidates : List String) : suggestions name candidates =
      ((neighbours name candidates).map Neighbour.text).take 3 := List.map_take
  have hranking := isRanking_neighbours name candidates
  refine ⟨⟨_, hranking, hfront candidates⟩, ?_, ?_, ?_, ?_⟩
  · rw [hfront]
    exact hranking.nodup.sublist (List.take_sublist 3 _)
  · intro hname
    rw [hfront] at hname
    obtain ⟨-, hpositive, -⟩ := (hranking.mem_iff name).1 (List.mem_of_mem_take hname)
    rw [Text.leastEdits_eq_zero_iff.2 rfl] at hpositive
    omega
  · intro listed hlisted candidate hcandidate hne hlt
    rw [hfront] at hlisted ⊢
    exact hranking.mem_take_of_lt hlisted hcandidate hne hlt
  · intro others hsame
    rw [hfront, hfront, hranking.eq_of_mem_iff (isRanking_neighbours name others) hsame]

/-- Four names are one edit away, and one of them is given twice. -/
theorem suggestions_eq_take_ranking_reordered :
    suggestions "cat" ["hat", "cut", "cat", "at", "hat", "cats"] = ["at", "cats", "cut"] ∧
      suggestions "cat" ["cats", "hat", "at", "cut", "cat"] =
        suggestions "cat" ["hat", "cut", "cat", "at", "hat", "cats"] := by
  obtain ⟨-, -, -, -, hsame⟩ :=
    suggestions_eq_take_ranking "cat" ["hat", "cut", "cat", "at", "hat", "cats"]
  have hfound : ["hat", "cut", "cat", "at", "hat", "cats"].filterMap (neighbour? "cat") =
      [⟨1, "hat"⟩, ⟨1, "cut"⟩, ⟨1, "at"⟩, ⟨1, "hat"⟩, ⟨1, "cats"⟩] := by decide +kernel
  have hsorted : ([⟨1, "hat"⟩, ⟨1, "cut"⟩, ⟨1, "at"⟩, ⟨1, "hat"⟩, ⟨1, "cats"⟩] :
        List Neighbour).mergeSort Neighbour.precedes =
      [⟨1, "at"⟩, ⟨1, "cats"⟩, ⟨1, "cut"⟩, ⟨1, "hat"⟩, ⟨1, "hat"⟩] := by
    simp [List.mergeSort, List.MergeSort.Internal.splitInTwo, Neighbour.precedes]
  refine ⟨?_, hsame _ fun candidate => ?_⟩
  · rw [suggestions, neighbours, hfound, hsorted]
    decide
  · simp only [List.mem_cons, List.not_mem_nil, or_false]
    tauto

end Suggestion

end Phrasebook
