import RegionGate.Execution
import Mathlib.Data.Finset.Card
import Mathlib.Data.Set.Function

open execution

namespace challenge

variable {E I : Type} (sent answered : E → Option I)

/-- The history holds a challenge with this identifier that no answer with the
same identifier has followed. -/
def Awaiting (history : List E) (id : I) : Prop :=
  ∃ before e after, history = before ++ e :: after ∧ sent e = some id ∧
    ∀ later ∈ after, answered later ≠ some id

/-- A matching sends the index of each answer to the index of an earlier
challenge with the same identifier, and no two answers to the same one. -/
structure Matching (history : List E) (partner : Nat → Nat) : Prop where
  earlier : ∀ {i e id}, history[i]? = some e → answered e = some id →
    partner i < i ∧ ∃ e', history[partner i]? = some e' ∧ sent e' = some id
  injective : ∀ {i j e e' id id'}, history[i]? = some e → answered e = some id →
    history[j]? = some e' → answered e' = some id' → partner i = partner j → i = j

variable {sent answered} {history : List E} {id : I}

theorem not_awaiting_nil : ¬ Awaiting sent answered [] id := by
  rintro ⟨before, e, after, h, _⟩
  simp at h

/-- One more event makes its own challenge awaiting and settles what it
answers. -/
theorem awaiting_snoc {e : E} :
    Awaiting sent answered (history ++ [e]) id ↔
      sent e = some id ∨ (Awaiting sent answered history id ∧ answered e ≠ some id) := by
  constructor
  · rintro ⟨before, c, after, heq, hsent, hlater⟩
    obtain ⟨rfl, rfl, rfl⟩ | ⟨rest, hrest⟩ := snoc_eq_append_cons heq
    · exact .inl hsent
    · have hafter : after = rest ++ [e] := by
        rw [hrest, List.append_assoc, List.cons_append] at heq
        exact (List.cons.inj (List.append_cancel_left heq)).2.symm
      subst hafter
      refine .inr ⟨⟨before, c, rest, hrest, hsent, ?_⟩, hlater e (by simp)⟩
      intro later hmem
      exact hlater later (by simp [hmem])
  · rintro (hsent | ⟨⟨before, c, after, rfl, hsent, hlater⟩, hopen⟩)
    · exact ⟨history, e, [], rfl, hsent, by simp⟩
    · refine ⟨before, c, after ++ [e], by simp, hsent, ?_⟩
      intro later hmem
      obtain hmem | hmem := List.mem_append.mp hmem
      · exact hlater later hmem
      · rw [List.mem_singleton.mp hmem]
        exact hopen

/-- An open challenge sits at some index with no answer to it up to the end. -/
private theorem Awaiting.exists_index {i : Nat} (h : Awaiting sent answered (history.take i) id) :
    ∃ k, k < i ∧ (∃ e, history[k]? = some e ∧ sent e = some id) ∧
      ∀ m e, k < m → m < i → history[m]? = some e → answered e ≠ some id := by
  obtain ⟨before, c, after, heq, hsent, hlater⟩ := h
  have hlength : before.length < (history.take i).length := by
    rw [heq]
    simp
  have hlt : before.length < i := lt_of_lt_of_le hlength (List.length_take_le i history)
  refine ⟨before.length, hlt, ⟨c, ?_, hsent⟩, ?_⟩
  · have hget : (history.take i)[before.length]? = some c := by
      rw [heq]
      simp
    rwa [List.getElem?_take_of_lt hlt] at hget
  · intro m e hkm hmi hget
    apply hlater
    have hget' : (history.take i)[m]? = some e := by rwa [List.getElem?_take_of_lt hmi]
    rw [heq, List.getElem?_append_right (by omega)] at hget'
    obtain ⟨offset, hoffset⟩ : ∃ offset, m - before.length = offset + 1 := ⟨m - before.length - 1, by omega⟩
    rw [hoffset, List.getElem?_cons_succ] at hget'
    exact List.mem_of_getElem? hget'

/-- When every answer finds its identifier awaiting, answers and challenges can
be matched one to one: each answer takes the last challenge before it. -/
theorem exists_matching
    (h : Every (fun before e => ∀ id, answered e = some id → Awaiting sent answered before id) history) :
    ∃ partner, Matching sent answered history partner := by
  have hopen : ∀ i : Nat, ∃ k : Nat, ∀ e id, history[i]? = some e → answered e = some id →
      k < i ∧ (∃ c, history[k]? = some c ∧ sent c = some id) ∧
        ∀ m e, k < m → m < i → history[m]? = some e → answered e ≠ some id := by
    intro i
    by_cases hanswer : ∃ e id, history[i]? = some e ∧ answered e = some id
    · obtain ⟨e, id, hget, hid⟩ := hanswer
      have hsplit : history = history.take i ++ e :: history.drop (i + 1) := by
        obtain ⟨hlt, rfl⟩ := List.getElem?_eq_some_iff.mp hget
        rw [← List.drop_eq_getElem_cons, List.take_append_drop]
      obtain ⟨k, hk⟩ := (h _ _ _ hsplit id hid).exists_index
      refine ⟨k, ?_⟩
      intro e' id' hget' hid'
      rw [hget, Option.some.injEq] at hget'
      subst hget'
      rw [hid, Option.some.injEq] at hid'
      subst hid'
      exact hk
    · exact ⟨0, fun e id hget hid => absurd ⟨e, id, hget, hid⟩ hanswer⟩
  choose partner hpartner using hopen
  refine ⟨partner, ?_, ?_⟩
  · intro i e id hget hid
    obtain ⟨hlt, hsent, _⟩ := hpartner i e id hget hid
    exact ⟨hlt, hsent⟩
  · -- An earlier answer to the same challenge would lie between the later
    -- answer and the last challenge before it.
    have hordered : ∀ {i j : Nat} {e e' : E} {id id' : I}, history[i]? = some e → answered e = some id →
        history[j]? = some e' → answered e' = some id' → partner i = partner j → ¬ i < j := by
      intro i j e e' id id' hi hid hj hid' hsame hlt
      obtain ⟨hki, ⟨c, hc, hcid⟩, _⟩ := hpartner i e id hi hid
      obtain ⟨_, ⟨c', hc', hcid'⟩, hbetween⟩ := hpartner j e' id' hj hid'
      rw [hsame, hc', Option.some.injEq] at hc
      subst hc
      rw [hcid', Option.some.injEq] at hcid
      subst hcid
      exact hbetween i e (by omega) hlt hi hid
    intro i j e e' id id' hi hid hj hid' hsame
    have hij := hordered hi hid hj hid' hsame
    have hji := hordered hj hid' hi hid hsame.symm
    omega

end challenge
