import QuestCheck.Proofs.Fields
import QuestCheck.Proofs.Surroundings

/-!
# Procedures that agree

Two procedures agree in some surroundings if they end alike and exchange the same, up to exchanges
of a kind that does not count.

* `Surroundings.Agree`, with `Agree.refl`, `Agree.of_done` and `Agree.lines`;
* `Agree.bind`: a sequence agrees with another as soon as their parts do;
* **`Check.agree_run`**: checks whose fields agree have runs that agree.
-/

namespace QuestCheck

open Procedure

namespace Surroundings

variable {α β : Type} {s : Surroundings} {counts : Exchange → Bool}

/-- The second procedure ends as the first and exchanges the same, as far as it counts. -/
structure Agree (s : Surroundings) (counts : Exchange → Bool) (p q : Procedure α) : Prop where
  result : s.result q = s.result p
  exchanges : (s.exchanges q).filter counts = (s.exchanges p).filter counts

namespace Agree

variable {p q : Procedure α}

theorem refl (p : Procedure α) : Agree s counts p p := ⟨rfl, rfl⟩

theorem of_done {a : α} (hresult : s.result q = .ok a)
    (hexchanges : ∀ e ∈ s.exchanges q, counts e = false) : Agree s counts (done a) q := by
  refine ⟨hresult, ?_⟩
  rw [exchanges_done, List.filter_nil, List.filter_eq_nil_iff]
  intro e he hcounts
  rw [hexchanges e he] at hcounts
  cases hcounts

theorem bind {f g : α → Procedure β} (h : Agree s counts p q)
    (hnext : ∀ a, s.result p = .ok a → Agree s counts (f a) (g a)) :
    Agree s counts (p >>= f) (q >>= g) := by
  cases hp : s.result p with
  | error fault =>
    have hq : s.result q = .error fault := h.result.trans hp
    refine ⟨?_, ?_⟩
    · rw [result_bind_of_error hq, result_bind_of_error hp]
    · rw [exchanges_bind_of_error hq, exchanges_bind_of_error hp, h.exchanges]
  | ok a =>
    have hq : s.result q = .ok a := h.result.trans hp
    refine ⟨?_, ?_⟩
    · rw [result_bind_of_ok hq, result_bind_of_ok hp, (hnext a hp).result]
    · rw [exchanges_bind_of_ok hq, exchanges_bind_of_ok hp, List.filter_append, List.filter_append,
        h.exchanges, (hnext a hp).exchanges]

theorem lines (h : Agree s counts p q) (hreport : ∀ line, counts ⟨.report line, ()⟩ = true) :
    s.lines q = s.lines p := by
  have hfilter : ∀ es : List Exchange, reportedLines (es.filter counts) = reportedLines es := by
    intro es
    unfold reportedLines
    rw [List.filterMap_filter]
    refine List.filterMap_congr fun e _ => ?_
    obtain ⟨request, answer⟩ := e
    cases request with
    | report line => rw [if_pos (hreport line)]
    | _ => exact ite_self _
  unfold Surroundings.lines
  rw [← hfilter, h.exchanges, hfilter]

end Agree

end Surroundings

namespace Check

open Surroundings

variable {s : Surroundings} {counts : Exchange → Bool} {c c' : Check}

theorem agree_examine {found : Option Actor} (hid : c'.id = c.id)
    (hfields : ∀ f, Agree s counts (c.forField f found) (c'.forField f found)) :
    Agree s counts (c.examine found) (c'.examine found) := by
  unfold examine
  refine (hfields .condition).bind fun condition _ => ?_
  refine (hfields .expected).bind fun expected _ => ?_
  rw [hid]
  refine (Agree.refl _).bind fun _ _ => (Agree.refl _).bind fun actual _ => ?_
  unfold conclude
  rw [hid]
  split_ifs
  · exact (hfields .success).bind fun message _ => .refl _
  · exact (hfields .failure).bind fun message _ => .refl _

/-- **Checks whose fields agree have runs that agree.** -/
theorem agree_run (hid : c'.id = c.id) (hskip : c'.skip = c.skip)
    (hfields : ∀ f actor, Agree s counts (c.forField f actor) (c'.forField f actor))
    (actor : Option Actor) : Agree s counts (c.run actor) (c'.run actor) := by
  have hexamine : ∀ found, Agree s counts (c.examine found) (c'.examine found) := fun found =>
    agree_examine hid fun f => hfields f found
  refine (hfields .independent actor).bind fun independent _ => ?_
  cases independent with
  | true => exact hexamine none
  | false =>
    cases actor with
    | some a => exact hexamine (some a)
    | none =>
      show Agree s counts c.skipRun c'.skipRun
      unfold skipRun
      rw [hid, hskip]
      exact .refl _

end Check

end QuestCheck
