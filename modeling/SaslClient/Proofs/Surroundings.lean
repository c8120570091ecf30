import SaslClient.Surroundings

/-!
# Confined activities

An activity takes the answers of its surroundings in order, from the first one on that is left. So
no other answer has a part in it, and it goes the same way whether the answers before were used up
or were never there.

Main results:

* `Confined.bind`: confined activities compose.
* `Confined.run_eq_run_after`: running behind some use is running in what is left.
-/

namespace SaslClient

namespace Usage

/-- What is used when `v` is used behind `u`. -/
def plus (u v : Usage) : Usage :=
  ⟨u.nonces + v.nonces, u.clockReads + v.clockReads, u.fetches + v.fetches⟩

/-- Nothing that was used in `u` is unused in `v`. -/
structure Within (u v : Usage) : Prop where
  nonces : u.nonces ≤ v.nonces
  clockReads : u.clockReads ≤ v.clockReads
  fetches : u.fetches ≤ v.fetches

theorem Within.refl (u : Usage) : u.Within u :=
  ⟨Nat.le_refl _, Nat.le_refl _, Nat.le_refl _⟩

theorem Within.trans {u v w : Usage} (h : u.Within v) (h' : v.Within w) : u.Within w :=
  ⟨Nat.le_trans h.nonces h'.nonces, Nat.le_trans h.clockReads h'.clockReads,
    Nat.le_trans h.fetches h'.fetches⟩

end Usage

namespace Surroundings

/-- Two surroundings give the same answers behind `u` and up to `v`. -/
structure AgreeBetween (s s' : Surroundings) (u v : Usage) : Prop where
  nonce : ∀ k, u.nonces ≤ k → k < v.nonces → s'.nonce k = s.nonce k
  clock : ∀ k, u.clockReads ≤ k → k < v.clockReads → s'.clock k = s.clock k
  source : ∀ k, u.fetches ≤ k → k < v.fetches → s'.source k = s.source k

theorem AgreeBetween.mono {s s' : Surroundings} {u u' v v' : Usage} (h : s.AgreeBetween s' u v)
    (hu : u.Within u') (hv : v'.Within v) : s.AgreeBetween s' u' v' where
  nonce k hk hk' := h.nonce k (Nat.le_trans hu.nonces hk) (Nat.lt_of_lt_of_le hk' hv.nonces)
  clock k hk hk' :=
    h.clock k (Nat.le_trans hu.clockReads hk) (Nat.lt_of_lt_of_le hk' hv.clockReads)
  source k hk hk' := h.source k (Nat.le_trans hu.fetches hk) (Nat.lt_of_lt_of_le hk' hv.fetches)

end Surroundings

namespace Act

variable {α β : Type}

/-- The activity uses answers from the next one on, depends on no other answer, and does not depend
on how many were used before. -/
structure Confined (act : Act α) : Prop where
  grows : ∀ (s : Surroundings) (u : Usage), u.Within (act.run s u).2
  depends : ∀ (s s' : Surroundings) (u : Usage), s.AgreeBetween s' u (act.run s u).2 →
    act.run s' u = act.run s u
  shifts : ∀ (s : Surroundings) (u v : Usage),
    act.run s (u.plus v) = ((act.run (s.after u) v).1, u.plus (act.run (s.after u) v).2)

theorem confined_pure (a : α) : (pure a : Act α).Confined :=
  ⟨fun _ u => .refl u, fun _ _ _ _ => rfl, fun _ _ _ => rfl⟩

theorem confined_drawNonce : drawNonce.Confined where
  grows _ _ := ⟨Nat.le_succ _, Nat.le_refl _, Nat.le_refl _⟩
  depends s s' u h := by
    rw [run_drawNonce, run_drawNonce, h.nonce u.nonces (Nat.le_refl _) (Nat.lt_succ_self _)]
  shifts _ _ _ := rfl

theorem confined_readClock : readClock.Confined where
  grows _ _ := ⟨Nat.le_refl _, Nat.le_succ _, Nat.le_refl _⟩
  depends s s' u h := by
    rw [run_readClock, run_readClock, h.clock u.clockReads (Nat.le_refl _) (Nat.lt_succ_self _)]
  shifts _ _ _ := rfl

theorem confined_fetchAnswer : fetchAnswer.Confined where
  grows _ _ := ⟨Nat.le_refl _, Nat.le_refl _, Nat.le_succ _⟩
  depends s s' u h := by
    rw [run_fetchAnswer, run_fetchAnswer, h.source u.fetches (Nat.le_refl _) (Nat.lt_succ_self _)]
  shifts _ _ _ := rfl

/-- What the second of two activities uses begins where the first one stopped. -/
theorem Confined.bind {act : Act α} {next : α → Act β} (h : act.Confined)
    (hnext : ∀ a, (next a).Confined) : (act >>= next).Confined where
  grows s u := (h.grows s u).trans ((hnext _).grows s _)
  depends s s' u hagree := by
    rw [run_bind] at hagree
    have hfirst : act.run s' u = act.run s u :=
      h.depends s s' u (hagree.mono (.refl u) ((hnext _).grows s _))
    have hsecond := (hnext (act.run s u).1).depends s s' (act.run s u).2
      (hagree.mono (h.grows s u) (.refl _))
    rw [run_bind, run_bind, hfirst, hsecond]
  shifts s u v := by
    rw [run_bind, run_bind, h.shifts s u v, (hnext _).shifts]

/-- Running behind some use is running in what is left of the surroundings. -/
theorem Confined.run_eq_run_after {act : Act α} (h : act.Confined) (s : Surroundings) (u : Usage) :
    act.run s u = ((act.run (s.after u) {}).1, u.plus (act.run (s.after u) {}).2) :=
  h.shifts s u {}

end Act

end SaslClient
