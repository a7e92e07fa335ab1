/-
Sensors and the handlers that bring their samples belong together.

The handlers installed for a sensor are on its board under its token, and no two sensors
share board and token: `Attached` says so, and every step keeps it.  Tokens are never given
out again, so it does not matter what was removed in between.
-/
import WrenchLink.Proofs.Board.Tokens
import WrenchLink.Proofs.Session.Shift

namespace WrenchLink
namespace Session

variable {τ : Type} {s s' : Session τ}

/-- The handlers that are installed for sensors are the sensors' own. -/
structure Attached (s : Session τ) : Prop where
  ordered : ∀ i address r, s.audience? i = some (address, r) → r.Ordered
  owned : ∀ i address r token index, s.audience? i = some (address, r) →
    (token, .sensor index) ∈ r.installed → ∃ sample, s.holding? index = some (i, token, sample)
  issued : ∀ index i token sample, s.holding? index = some (i, token, sample) →
    ∃ address r, s.audience? i = some (address, r) ∧ token < r.next
  distinct : ∀ j k i token x y, s.holding? j = some (i, token, x) →
    s.holding? k = some (i, token, y) → j = k

theorem attached_opened (interface : Endpoint) : (opened interface : Session τ).Attached :=
  ⟨nofun, nofun, nofun, nofun⟩

theorem audienceWith_eq_some {board i : Nat} {address : Address} {r' : Registry (Callback τ)}
    {f : Registry (Callback τ) → Registry (Callback τ)}
    (h : s.audienceWith board f i = some (address, r')) :
    ∃ r, s.audience? i = some (address, r) ∧ r' = if i = board then f r else r := by
  rw [audienceWith] at h
  split at h
  · rename_i hi
    obtain ⟨⟨a, r⟩, hr, heq⟩ := Option.map_eq_some_iff.mp h
    cases heq
    exact ⟨r, hr, (if_pos hi).symm⟩
  · rename_i hi
    exact ⟨r', h, (if_neg hi).symm⟩

theorem audienceWith_of_eq_some {board i : Nat} {address : Address} {r : Registry (Callback τ)}
    (f : Registry (Callback τ) → Registry (Callback τ)) (h : s.audience? i = some (address, r)) :
    s.audienceWith board f i = some (address, if i = board then f r else r) := by
  rw [audienceWith, h]
  split <;> rfl

namespace Attached

theorem of_still (hs : s.Attached) (haudience : ∀ i, s'.audience? i = s.audience? i)
    (hholding : ∀ j, s'.holding? j = s.holding? j) : s'.Attached := by
  constructor
  · simpa only [haudience] using hs.ordered
  · simpa only [haudience, hholding] using hs.owned
  · simpa only [haudience, hholding] using hs.issued
  · simpa only [hholding] using hs.distinct

section Handlers

variable {board : Nat} {f : Registry (Callback τ) → Registry (Callback τ)}

theorem ordered_of_audienceWith (hs : s.Attached)
    (haudience : ∀ i, s'.audience? i = s.audienceWith board f i)
    (hordered : ∀ r, r.Ordered → (f r).Ordered) {i : Nat} {address : Address}
    {r' : Registry (Callback τ)} (h : s'.audience? i = some (address, r')) : r'.Ordered := by
  rw [haudience] at h
  obtain ⟨r, hr, rfl⟩ := audienceWith_eq_some h
  split
  · exact hordered r (hs.ordered i address r hr)
  · exact hs.ordered i address r hr

/-- A token that was given out stays so if none is taken back. -/
theorem issued_of_audienceWith (hs : s.Attached)
    (haudience : ∀ i, s'.audience? i = s.audienceWith board f i) (hnext : ∀ r, r.next ≤ (f r).next)
    {index i token : Nat} {sample : Sample} (h : s.holding? index = some (i, token, sample)) :
    ∃ address r, s'.audience? i = some (address, r) ∧ token < r.next := by
  obtain ⟨address, r, hr, hlt⟩ := hs.issued index i token sample h
  refine ⟨address, _, (haudience i).trans (audienceWith_of_eq_some f hr), ?_⟩
  split
  · exact Nat.lt_of_lt_of_le hlt (hnext r)
  · exact hlt

/-- A change of one board's handlers keeps the invariant if every sensor's handler that is
there afterwards was there before, and no token is taken back. -/
theorem of_audienceWith (hs : s.Attached)
    (haudience : ∀ i, s'.audience? i = s.audienceWith board f i)
    (hholding : ∀ j, s'.holding? j = s.holding? j) (hordered : ∀ r, r.Ordered → (f r).Ordered)
    (hshrinks : ∀ r token index, (token, .sensor index) ∈ (f r).installed →
      (token, .sensor index) ∈ r.installed)
    (hnext : ∀ r, r.next ≤ (f r).next) : s'.Attached := by
  constructor
  · exact fun _ _ _ => hs.ordered_of_audienceWith haudience hordered
  · intro i address r' token index h hmem
    rw [haudience] at h
    obtain ⟨r, hr, rfl⟩ := audienceWith_eq_some h
    have hbefore : (token, .sensor index) ∈ r.installed := by
      split at hmem
      · exact hshrinks r token index hmem
      · exact hmem
    rw [hholding]
    exact hs.owned i address r token index hr hbefore
  · intro index i token sample h
    rw [hholding] at h
    exact hs.issued_of_audienceWith haudience hnext h
  · simpa only [hholding] using hs.distinct

end Handlers

theorem of_boardAdded (hs : s.Attached) {n : Nat} {address : Address}
    (hfresh : s.audience? n = none)
    (haudience : ∀ i, s'.audience? i = if i = n then some (address, {}) else s.audience? i)
    (hholding : ∀ j, s'.holding? j = s.holding? j) : s'.Attached := by
  constructor
  · intro i a r h
    rw [haudience] at h
    split at h
    · cases h
      exact Registry.ordered_empty
    · exact hs.ordered i a r h
  · intro i a r token index h hmem
    rw [haudience] at h
    split at h
    · cases h
      cases hmem
    · rw [hholding]
      exact hs.owned i a r token index h hmem
  · intro index i token sample h
    rw [hholding] at h
    obtain ⟨a, r, hr, hlt⟩ := hs.issued index i token sample h
    refine ⟨a, r, ?_, hlt⟩
    rw [haudience, if_neg, hr]
    rintro rfl
    rw [hfresh] at hr
    cases hr
  · simpa only [hholding] using hs.distinct

theorem of_attached (hs : s.Attached) {n board : Nat} {address : Address}
    {r : Registry (Callback τ)} (hfresh : s.holding? n = none)
    (hboard : s.audience? board = some (address, r))
    (haudience : ∀ i, s'.audience? i = s.audienceWith board (·.install (.sensor n) |>.2) i)
    (hholding : ∀ j, s'.holding? j =
      if j = n then some (board, r.next, Sample.zero) else s.holding? j) : s'.Attached := by
  have hnew : s'.holding? n = some (board, r.next, Sample.zero) := (hholding n).trans (if_pos rfl)
  have hother : ∀ {j}, j ≠ n → s'.holding? j = s.holding? j := by
    intro j hj
    rw [hholding, if_neg hj]
  -- No sensor had the new token.
  have hunused : ∀ j sample, s.holding? j ≠ some (board, r.next, sample) := by
    intro j sample h
    obtain ⟨a, q, hq, hlt⟩ := hs.issued j board r.next sample h
    rw [hboard] at hq
    cases hq
    exact Nat.lt_irrefl _ hlt
  constructor
  · exact fun _ _ _ => hs.ordered_of_audienceWith haudience fun p hp => hp.install _
  · intro i a q token index h hmem
    rw [haudience] at h
    obtain ⟨p, hp, rfl⟩ := audienceWith_eq_some h
    have hbefore : (token, .sensor index) ∈ p.installed →
        ∃ sample, s'.holding? index = some (i, token, sample) := by
      intro hmem
      obtain ⟨sample, hsample⟩ := hs.owned i a p token index hp hmem
      refine ⟨sample, (hother ?_).trans hsample⟩
      rintro rfl
      rw [hfresh] at hsample
      cases hsample
    split at hmem
    · rename_i hi
      subst hi
      rw [hboard] at hp
      cases hp
      rcases List.mem_append.mp hmem with hmem | hmem
      · exact hbefore hmem
      · cases List.mem_singleton.mp hmem
        exact ⟨_, hnew⟩
    · exact hbefore hmem
  · intro index i token sample h
    by_cases hindex : index = n
    · subst hindex
      rw [hnew] at h
      cases h
      refine ⟨address, _, (haudience _).trans (audienceWith_of_eq_some _ hboard), ?_⟩
      rw [if_pos rfl]
      exact Nat.lt_succ_self r.next
    · rw [hother hindex] at h
      exact hs.issued_of_audienceWith haudience (fun p => Nat.le_succ p.next) h
  · intro j k i token x y hj hk
    by_cases hjn : j = n <;> by_cases hkn : k = n
    · rw [hjn, hkn]
    · subst hjn
      rw [hnew] at hj
      cases hj
      rw [hother hkn] at hk
      exact absurd hk (hunused k y)
    · subst hkn
      rw [hnew] at hk
      cases hk
      rw [hother hjn] at hj
      exact absurd hj (hunused j x)
    · rw [hother hjn] at hj
      rw [hother hkn] at hk
      exact hs.distinct j k i token x y hj hk

theorem of_dropped (hs : s.Attached) {index board token : Nat} {sample : Sample}
    (hsensor : s.holding? index = some (board, token, sample))
    (haudience : ∀ i, s'.audience? i = s.audienceWith board (·.remove token |>.2) i)
    (hholding : ∀ j, s'.holding? j = if j = index then none else s.holding? j) :
    s'.Attached := by
  have hother : ∀ {j held}, s'.holding? j = some held → s.holding? j = some held := by
    intro j held h
    rw [hholding] at h
    split at h
    · cases h
    · exact h
  constructor
  · exact fun _ _ _ => hs.ordered_of_audienceWith haudience fun p hp => hp.remove _
  · intro i a q t j h hmem
    rw [haudience] at h
    obtain ⟨p, hp, rfl⟩ := audienceWith_eq_some h
    have hbefore : (t, .sensor j) ∈ p.installed ∧ ¬(i = board ∧ t = token) := by
      split at hmem
      · obtain ⟨hmem, hne⟩ := Registry.mem_remove.mp hmem
        exact ⟨hmem, fun h => hne h.2⟩
      · rename_i hi
        exact ⟨hmem, fun h => hi h.1⟩
    obtain ⟨x, hx⟩ := hs.owned i a p t j hp hbefore.1
    refine ⟨x, ?_⟩
    rw [hholding, if_neg, hx]
    rintro rfl
    rw [hsensor] at hx
    cases hx
    exact hbefore.2 ⟨rfl, rfl⟩
  · intro j i t x h
    exact hs.issued_of_audienceWith haudience (fun p => Nat.le_refl p.next) (hother h)
  · intro j k i t x y hj hk
    exact hs.distinct j k i t x y (hother hj) (hother hk)

theorem of_received (hs : s.Attached) {f : Nat → Sample → Sample}
    (haudience : ∀ i, s'.audience? i = s.audience? i)
    (hholding : ∀ j, s'.holding? j = (s.holding? j).map fun (board, token, sample) =>
      (board, token, f j sample)) : s'.Attached := by
  have hbefore : ∀ {j i token x}, s'.holding? j = some (i, token, x) →
      ∃ y, s.holding? j = some (i, token, y) := by
    intro j i token x h
    rw [hholding] at h
    obtain ⟨⟨i, token, y⟩, hy, heq⟩ := Option.map_eq_some_iff.mp h
    cases heq
    exact ⟨y, hy⟩
  constructor
  · simpa only [haudience] using hs.ordered
  · intro i a r token index h hmem
    rw [haudience] at h
    obtain ⟨x, hx⟩ := hs.owned i a r token index h hmem
    exact ⟨f index x, by rw [hholding, hx]; rfl⟩
  · intro index i token x h
    obtain ⟨y, hy⟩ := hbefore h
    simpa only [haudience] using hs.issued index i token y hy
  · intro j k i token x y hj hk
    obtain ⟨x', hx⟩ := hbefore hj
    obtain ⟨y', hy⟩ := hbefore hk
    exact hs.distinct j k i token x' y' hx hy

end Attached

theorem attached_of_shift {operation : Operation τ} (hs : s.Attached)
    (hshift : Shift s s' operation) : s'.Attached := by
  cases hshift with
  | still haudience hholding => exact hs.of_still haudience hholding
  | boardAdded hfresh haudience hholding => exact hs.of_boardAdded hfresh haudience hholding
  | installed haudience hholding =>
    refine hs.of_audienceWith haudience hholding (fun r hr => hr.install _) ?_
      fun r => Nat.le_succ r.next
    intro r token index hmem
    rcases List.mem_append.mp hmem with hmem | hmem
    · exact hmem
    · cases List.mem_singleton.mp hmem
  | removed haudience hholding =>
    exact hs.of_audienceWith haudience hholding (fun r hr => hr.remove _)
      (fun r token index hmem => (Registry.mem_remove.mp hmem).1) fun r => Nat.le_refl r.next
  | attached hfresh hboard haudience hholding =>
    exact hs.of_attached hfresh hboard haudience hholding
  | dropped hsensor haudience hholding => exact hs.of_dropped hsensor haudience hholding
  | @received d rest hqueued haudience hholding =>
    exact hs.of_received (f := fun j => (s.manager.reactions d).foldl (keep j)) haudience hholding

theorem attached_step (net : Network) (hs : s.Attached) (operation : Operation τ) :
    (s.step net operation).session.Attached := by
  cases hpolls : operation.polls with
  | true =>
    exact polls_induction (P := fun s _ => s.Attached) (h := []) net hpolls
      (fun t _ _ _ ht => ht.of_still (fun _ => rfl) fun _ => rfl)
      (fun t _ ht => attached_of_shift ht (shift_receive net t)) hs
  | false => exact attached_of_shift hs (shift_step net s hpolls)

theorem attached_through (hs : s.Attached) (steps : List (Network × Operation τ)) :
    (s.through steps).Attached :=
  through_induction (P := Attached) steps
    (fun _ net operation ht => attached_step net ht operation) hs

end Session
end WrenchLink
