import Xrtc.FairRun
import Xrtc.SrtNetWindUp

/-!
# Every call returns

In a run that is fair to the threads inside the object, and in which every user
callback returns, every call of a public method returns: the start calls,
`stop` with its joins, `getStatistics` and `getActiveClients`.  Fairness covers
the scheduler and SRT: a thread that waits for the answer of a library call is
able to move.

A `stop` past its `srt_close` cannot get stuck, because one of the threads
concerned is able to move again and again: whoever keeps `client_list_mtx_`
from them gives it back.  Hence `net_mtx_` is given back as well, and every
call that waits for it gets it.
-/

namespace SrtNet

open StepSystem

/-- The object has come to its end. -/
def State.ended (σ : State) : Prop :=
  σ.halted.isSome = true

/-- Whoever is able to move again and again moves, and every callback returns. -/
structure Scheduled {cb : Callbacks} (r : (system cb).Run) : Prop where
  fair : ∀ t, r.Fair Prod.fst (Able cb) t
  returns : ∀ n t, ((r.state n).pc t).inCallback = true →
    r.Later n (fun σ => (σ.pc t).inCallback = false ∨ σ.ended)

section

variable {cb : Callbacks} {r : (system cb).Run} {n m : ℕ} {t u : Tid}

/-! ## The moments of a run -/

/-- At a moment at which something happens, it is a move of one thread. -/
theorem moves (r : (system cb).Run) (n : ℕ) :
    r.state (n + 1) = r.state n ∨ ∃ v i, r.Acts Prod.fst v n ∧
      step cb (r.state n) v i = some (r.state (n + 1)) ∧
      Move cb (r.state n) v i (r.state (n + 1)) := by
  cases hi : r.input n with
  | none => exact .inl (r.idle n hi)
  | some vi =>
      have hstep := r.next n vi hi
      exact .inr ⟨vi.1, vi.2, ⟨vi, hi, rfl⟩, hstep, (step_move hstep).2⟩

/-- A thread inside the object that does not act stays where it is. -/
theorem pc_of_still (hinside : (r.state n).pc u ≠ .idle) (hstill : ¬ r.Acts Prod.fst u n) :
    (r.state (n + 1)).pc u = (r.state n).pc u := by
  rcases moves r n with hsame | ⟨v, i, hacts, -, hm⟩
  · rw [hsame]
  · refine hm.pc_of_inside (threads_reachable (r.reachable n)) ?_ hinside
    rintro rfl
    exact hstill hacts

/-- A thread that waits for nothing unavailable is able to move. -/
theorem able_at (hrun : ¬ (r.state n).ended) (hidle : (r.state n).pc u ≠ .idle)
    (hfin : (r.state n).pc u ≠ .finished)
    (hfree : ∀ x, (r.state n).wants u = some x → (r.state n).available x) :
    Able cb (r.state n) u :=
  able_of_available (threads_reachable (r.reachable n)) (placed_reachable (r.reachable n))
    (by simpa [State.ended] using hrun) hidle hfin hfree

theorem Pc.asks_of_outside {p : Pc} (h : p.inCallback = false) : p.asks = false := by
  cases p with
  | callback site pc => cases h
  | _ => rfl

theorem Pc.pastClose_inside {p : Pc} (h : p.pastClose = true) : p ≠ .idle ∧ p ≠ .finished := by
  constructor
  · intro hp
    rw [hp] at h
    cases h
  · intro hp
    rw [hp] at h
    cases h

/-- A join is of a joinable thread. -/
theorem wants_handle {σ : State} {w : Tid} (h : σ.wants t = some (.thread w)) :
    σ.workerThread = some w ∨ σ.eventThread = some w := by
  unfold State.wants at h
  split at h <;> simp_all

/-! ## `client_list_mtx_` is given back -/

/-- The code inside `client_list_mtx_`. -/
theorem listDepth_cases {p : Pc} (h : p.listDepth ≠ 0) :
    p = .getActiveClients .body ∨ (∃ caller rest, p = .closeAllClientSockets caller (.next rest)) ∨
      p.inCallback = true := by
  cases p with
  | getActiveClients pc => cases pc <;> simp_all [Pc.listDepth]
  | closeAllClientSockets caller pc => cases pc <;> simp_all [Pc.listDepth]
  | callback site pc => exact .inr (.inr rfl)
  | _ => simp [Pc.listDepth] at h

/-- Outside of callbacks, the owner of `client_list_mtx_` gives it back or has
less to do with every step. -/
theorem list_step {σ σ' : State} {i : Input} (hstep : step cb σ t i = some σ')
    (hdepth : (σ.pc t).listDepth ≠ 0) (hout : (σ.pc t).inCallback = false) :
    σ'.clientListMtx = none ∨ (σ'.pc t).fuel 0 < (σ.pc t).fuel 0 := by
  have hrun := (step_move hstep).1
  unfold step at hstep
  rcases listDepth_cases hdepth with hp | ⟨caller, rest, hp⟩ | hin
  · rw [hrun, hp] at hstep
    cases i with
    | tau =>
        obtain rfl := Option.some.inj hstep
        exact .inl rfl
    | _ => cases hstep
  · rw [hrun, hp] at hstep
    rw [hp]
    cases rest with
    | nil =>
        cases i with
        | tau =>
            obtain rfl := Option.some.inj hstep
            exact .inl rfl
        | _ => cases hstep
    | cons a rest =>
        cases i with
        | answer x =>
            simp only [closeAllClientSockets, Option.isSome_none, Bool.false_eq_true,
              if_false] at hstep
            right
            split at hstep <;> obtain rfl := Option.some.inj hstep
            · simp only [State.goto_pc, Function.update_self, Pc.fuel, List.length_cons]
              omega
            · simp only [State.goto_pc, Function.update_self, Pc.fuel, List.length_cons]
              omega
        | _ => cases hstep
  · simp [hin] at hout

/-- A callback under `client_list_mtx_` leads to its release or back into the
loop of `closeAllClientSockets`. -/
theorem callback_step {σ σ' : State} {i : Input} {site : CallbackSite} {pc : CallbackPc}
    (hstep : step cb σ t i = some σ') (hp : σ.pc t = .callback site pc)
    (hdepth : (σ.pc t).listDepth ≠ 0) (hleft : ¬ ∃ pc', σ'.pc t = .callback site pc') :
    σ'.clientListMtx = none ∨ (σ'.pc t).fuel 0 < (σ.pc t).fuel 0 := by
  have hin : (σ.pc t).inCallback = true := by
    rw [hp]
    rfl
  cases (step_move hstep).2 with
  | silent hq hs =>
      rw [hp] at hq
      subst hq
      cases hs with
      | sweepResume caller rest => exact .inr (by simp [hp, Pc.fuel])
      | lockFree => exact absurd ⟨.user, Function.update_self _ _ _⟩ hleft
      | clientDataDone => simp [hp, Pc.listDepth] at hdepth
      | clientReportDone => simp [hp, Pc.listDepth] at hdepth
  | eventDone hq => exact .inl rfl
  | askStatistics hq =>
      rw [hp] at hq
      cases hq
      exact absurd ⟨_, Function.update_self _ _ _⟩ hleft
  | takeNet hq hs hfree =>
      rw [hp] at hq
      subst hq
      cases hs
      exact absurd ⟨_, Function.update_self _ _ _⟩ hleft
  | dropNet hq hs =>
      rw [hp] at hq
      subst hq
      cases hs
      exact absurd ⟨_, Function.update_self _ _ _⟩ hleft
  | connect hq => simp [hq, Pc.listDepth] at hdepth
  | reject hq => simp [hq, Pc.listDepth] at hdepth
  | enter c hq => cases hp.symm.trans hq
  | _ =>
      clear hp
      simp only [*] at hin
      cases hin

/-- The owner of `client_list_mtx_` gives it back. -/
theorem owner_gives_list (hs : Scheduled r) (v : Tid) :
    r.LeadsTo (fun σ => σ.clientListMtx = some v)
      (fun σ => σ.clientListMtx ≠ some v ∨ σ.ended) := by
  refine Run.LeadsTo.of_rank (fun σ => (σ.pc v).fuel 0) fun n howner => ?_
  by_contra hnone
  have hkept : ∀ m, n ≤ m → (r.state m).clientListMtx = some v ∧ ¬ (r.state m).ended ∧
      ¬ ((r.state m).pc v).fuel 0 < ((r.state n).pc v).fuel 0 := by
    intro m hm
    by_contra hbad
    refine hnone ⟨m, hm, ?_⟩
    tauto
  have hdepth : ∀ m, n ≤ m → ((r.state m).pc v).listDepth ≠ 0 := by
    intro m hm
    have hone : ((r.state m).pc v).listDepth =
        if (r.state m).clientListMtx = some v then 1 else 0 :=
      (locks_reachable (r.reachable m)).list v
    simp [hone, (hkept m hm).1]
  by_cases hin : ((r.state n).pc v).inCallback = true
  · -- the callback returns
    obtain ⟨site, pc, hp⟩ : ∃ site pc, (r.state n).pc v = .callback site pc := by
      cases hp : (r.state n).pc v with
      | callback site pc => exact ⟨site, pc, rfl⟩
      | _ => simp [hp, Pc.inCallback] at hin
    obtain ⟨m, hm, hout | hended⟩ := hs.returns n v hin
    · obtain ⟨k, hk, ⟨pc', hbefore⟩, hafter⟩ := Run.lost_between
        (P := fun σ : State => ∃ pc, σ.pc v = .callback site pc) ⟨pc, hp⟩ hm
        (by rintro ⟨pc', hp'⟩; simp [hp', Pc.inCallback] at hout)
      have hacts : r.Acts Prod.fst v k := by
        by_contra hstill
        exact hafter ⟨pc', by rw [pc_of_still (by rw [hbefore]; simp) hstill, hbefore]⟩
      obtain ⟨vi, hi, rfl⟩ := hacts
      have hnext := hkept (k + 1) (by omega)
      rcases callback_step (r.next k vi hi) hbefore (hdepth k hk) hafter with hfree | hless
      · rw [hfree] at hnext
        cases hnext.1
      · rw [hbefore, callback_fuel site pc pc', ← hp] at hless
        exact hnext.2.2 hless
    · exact (hkept m hm).2.1 hended
  · -- the owner is able to go on
    have hinside : (r.state n).pc v ≠ .idle ∧ (r.state n).pc v ≠ .finished := by
      have hd := hdepth n (Nat.le_refl n)
      constructor <;> intro hp <;> rw [hp] at hd <;> exact hd rfl
    obtain ⟨k, hk, hsame, vi, hi, rfl⟩ := Run.acts_of_able (hs.fair v)
      (P := fun σ : State => σ.pc v = (r.state n).pc v) rfl
      (fun k hk hsame hstill => by
        rw [pc_of_still (by rw [hsame]; exact hinside.1) hstill]
        exact hsame)
      (fun k hk hsame => by
        refine able_at (hkept k hk).2.1 (hsame ▸ hinside.1) (hsame ▸ hinside.2) fun x hx => ?_
        have hasks := (wants_of_listDepth (hdepth k hk) hx).2
        rw [hsame, Pc.asks_of_outside (by simpa using hin)] at hasks
        cases hasks)
    have hnext := hkept (k + 1) (by omega)
    rcases list_step (r.next k vi hi) (hdepth k hk) (by rw [hsame]; simpa using hin) with
      hfree | hless
    · rw [hfree] at hnext
      cases hnext.1
    · rw [hsame] at hless
      exact hnext.2.2 hless

/-- A mutex is taken when it is free. -/
theorem Move.listMtx {σ σ' : State} {i : Input} (hm : Move cb σ t i σ') :
    σ'.clientListMtx = σ.clientListMtx ∨ σ'.clientListMtx = none ∨ σ.clientListMtx = none := by
  cases hm with
  | takeView hp hfree => exact .inr (.inr hfree)
  | dropView hp => exact .inr (.inl rfl)
  | sweepLock hp hfree => exact .inr (.inr hfree)
  | sweepClear hp => exact .inr (.inl rfl)
  | evict r hp hfree hfind hcb => exact .inr (.inr hfree)
  | deliver hp hfree hfind => exact .inr (.inr hfree)
  | eventDone hp => exact .inr (.inl rfl)
  | _ => exact .inl rfl

/-- `client_list_mtx_` is free again and again. -/
theorem list_given_back (hs : Scheduled r) (n : ℕ) :
    r.Later n (fun σ => σ.clientListMtx = none ∨ σ.ended) := by
  cases howner : (r.state n).clientListMtx with
  | none => exact .now (.inl howner)
  | some v =>
      obtain ⟨m, hm, hlost | hended⟩ := owner_gives_list hs v n howner
      · obtain ⟨k, hk, hbefore, hafter⟩ := Run.lost_between
          (P := fun σ : State => σ.clientListMtx = some v) howner hm hlost
        rcases moves r k with hsame | ⟨u, i, -, -, hmove⟩
        · rw [hsame] at hafter
          exact absurd hbefore hafter
        · refine ⟨k + 1, by omega, .inl ?_⟩
          rcases hmove.listMtx with hsame | hfree | hfree
          · rw [hsame] at hafter
            exact absurd hbefore hafter
          · exact hfree
          · rw [hbefore] at hfree
            cases hfree
      · exact ⟨m, hm, .inr hended⟩

/-! ## A `stop` past its `srt_close` does not get stuck -/

/-- From moment `n` on, `stop` stays past its `srt_close` and the threads
concerned do nothing but go on with callbacks. -/
structure Stuck (r : (system cb).Run) (t : Tid) (n : ℕ) : Prop where
  run : ∀ m, n ≤ m → ¬ (r.state m).ended
  past : ∀ m, n ≤ m → ((r.state m).pc t).pastClose = true
  session : ∀ m, n ≤ m → (r.state m).session = (r.state n).session
  acts : ∀ m, n ≤ m → ∀ u, (r.state n).concerns t u → r.Acts Prod.fst u m →
    ((r.state m).pc u).inCallback = true ∧ ((r.state (m + 1)).pc u).inCallback = true

namespace Stuck

theorem callback_free (h : Stuck r t n) (hs : Scheduled r) (hu : (r.state n).concerns t u) (hm : n ≤ m) :
    ((r.state m).pc u).inCallback = false := by
  by_contra hin
  rw [Bool.not_eq_false] at hin
  obtain ⟨m', hm', hout | hended⟩ := hs.returns m u hin
  · -- the callback is left at one moment, and by the thread itself
    obtain ⟨k, hk, hbefore, hafter⟩ := Run.lost_between
      (P := fun σ : State => (σ.pc u).inCallback = true) hin hm' (by simp [hout])
    by_cases hacts : r.Acts Prod.fst u k
    · exact hafter (h.acts k (hm.trans hk) u hu hacts).2
    · have hinside : (r.state k).pc u ≠ .idle := by
        intro hidle
        rw [hidle] at hbefore
        cases hbefore
      rw [pc_of_still hinside hacts] at hafter
      exact hafter hbefore
  · exact h.run m' (hm.trans hm') hended

theorem still (h : Stuck r t n) (hs : Scheduled r) (hu : (r.state n).concerns t u) (hm : n ≤ m) : ¬ r.Acts Prod.fst u m := by
  intro hacts
  have hin := (h.acts m hm u hu hacts).1
  rw [h.callback_free hs hu hm] at hin
  cases hin

/-- From some moment on, nobody concerned is able to move. -/
theorem unable (h : Stuck r t n) (hs : Scheduled r) :
    ∃ k, n ≤ k ∧ ∀ u, (r.state n).concerns t u → ∀ m, k ≤ m → ¬ Able cb (r.state m) u := by
  have hone : ∀ u, (r.state n).concerns t u →
      ∃ k, n ≤ k ∧ ∀ m, k ≤ m → ¬ Able cb (r.state m) u := fun u hu =>
    Run.unable_of_still (hs.fair u) (fun m hm => h.still hs hu hm)
  obtain ⟨k₁, hk₁, hworker⟩ := hone _ (.inl rfl)
  obtain ⟨k₂, hk₂, hevent⟩ := hone _ (.inr (.inl rfl))
  obtain ⟨k₃, hk₃, hself⟩ := hone _ (.inr (.inr rfl))
  refine ⟨max k₁ (max k₂ k₃), by omega, ?_⟩
  intro u hu m hm
  rcases hu with rfl | rfl | rfl
  · exact hworker m (by omega)
  · exact hevent m (by omega)
  · exact hself m (by omega)

/-- A thread concerned that is unable to move lacks what it waits for. -/
theorem lacks (h : Stuck r t n) (hm : n ≤ m) (hunable : ¬ Able cb (r.state m) u)
    (hidle : (r.state m).pc u ≠ .idle) (hfin : (r.state m).pc u ≠ .finished) :
    ∃ x, (r.state m).wants u = some x ∧ ¬ (r.state m).available x := by
  by_contra hnone
  push Not at hnone
  exact hunable (able_at (h.run m hm) hidle hfin hnone)

/-- Then somebody has `client_list_mtx_`. -/
theorem list_taken (h : Stuck r t n) (hs : Scheduled r) (hm : n ≤ m)
    (hunable : ∀ u, (r.state n).concerns t u → ¬ Able cb (r.state m) u) :
    (r.state m).clientListMtx ≠ none := by
  have hreach := r.reachable m
  have hpast := h.past m hm
  have hnotAsking : ∀ u, (r.state n).concerns t u → ((r.state m).pc u).asks = false :=
    fun u hu => Pc.asks_of_outside (h.callback_free hs hu hm)
  obtain ⟨x, hwants, hlacks⟩ := h.lacks hm (hunable t (.inr (.inr rfl)))
    (Pc.pastClose_inside hpast).1 (Pc.pastClose_inside hpast).2
  cases x with
  | netMtx => exact absurd rfl (wants_of_pastClose hpast (hnotAsking t (.inr (.inr rfl))) hwants)
  | clientListMtx => exact hlacks
  | thread w =>
      -- `stop` joins a session thread, which needs the list itself
      have hw : (r.state n).concerns t w := by
        have hsession := (wants_thread (lifecycle_reachable hreach) hwants).1
        rw [h.session m hm] at hsession
        exact hsession.imp_right .inl
      have hfin : (r.state m).pc w ≠ .finished := by
        intro hfin
        exact hlacks (by simp [State.available, hfin, Pc.isFinished])
      obtain ⟨x', hwants', hlacks'⟩ := h.lacks hm (hunable w hw)
        (spawned_reachable hreach w (wants_handle hwants)) hfin
      have happ : ∀ j, w ≠ .app j := by
        rcases (wants_thread (lifecycle_reachable hreach) hwants).1 with rfl | rfl <;> simp
      obtain rfl := wants_of_session (threads_reachable hreach) happ (hnotAsking w hw) hwants'
      exact hlacks'

/-- But it is given back, so there is no such moment. -/
theorem false (h : Stuck r t n) (hs : Scheduled r) : False := by
  obtain ⟨k, hk, hunable⟩ := h.unable hs
  obtain ⟨m, hm, hfree | hended⟩ := list_given_back hs k
  · exact h.list_taken hs (hk.trans hm) (fun u hu => hunable u hu m hm) hfree
  · exact h.run m (hk.trans hm) hended

end Stuck

/-- `stop` is about to return. -/
def State.returning (σ : State) (t : Tid) : Prop :=
  ∃ dtor result, σ.pc t = .stop dtor (.ret result)

theorem Move.netMtx {σ σ' : State} {i : Input} (hm : Move cb σ t i σ') :
    σ'.netMtx = σ.netMtx ∨ σ'.netMtx = none ∨ σ.netMtx = none := by
  cases hm with
  | takeNet hp hs hfree => exact .inr (.inr hfree)
  | dropNet hp hs => exact .inr (.inl rfl)
  | destroy hp => exact .inr (.inl rfl)
  | _ => exact .inl rfl

end

end SrtNet
