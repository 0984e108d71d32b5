import Xrtc.SrtNetClientFate

/-!
# Received data and the client list

`serverEventHandler` receives a message before it takes `client_list_mtx_` and
looks the socket up.  The lookup succeeds as long as nobody clears the list in
between; the error branch is prepared for that, the two data branches are not.
-/

namespace SrtNet

open Custody

/-! ## Subscriptions, entries and admissions -/

/-- Only clients not yet closed are subscribed, entries that a
`closeAllClientSockets` has visited are closed, and every entry was admitted. -/
structure Registry (σ : State) : Prop where
  subs : ∀ sub ∈ σ.subs, sub.2 ∈ σ.live.map Prod.fst
  visited : ∀ s ∈ σ.clientList, s ∈ σ.live.map Prod.fst ∨ s ∈ σ.books.closes
  pending : ∀ a ∈ σ.stage.pending, a ∈ σ.books.admitted
  listed : ∀ a ∈ σ.clientList.toList, a ∈ σ.books.admitted

section

variable {cb : Callbacks} {σ σ' : State} {t : Tid} {i : Input}
  {ok : State → Tid × Input → Prop}

/-- The list, the visit in progress and what was known about them stay. -/
theorem Registry.kept (h : Registry σ) (hk : Kept σ σ')
    (hcloses : ∀ s ∈ σ.books.closes, s ∈ σ'.books.closes)
    (hadmitted : ∀ a ∈ σ.books.admitted, a ∈ σ'.books.admitted)
    (hpending : ∀ a ∈ σ'.stage.pending, a ∈ σ'.books.admitted) : Registry σ' := by
  refine ⟨?_, ?_, hpending, ?_⟩
  · rw [hk.live]
    exact fun sub hsub => h.subs sub (hk.subs sub hsub)
  · rw [hk.live, hk.list]
    exact fun s hs => (h.visited s hs).imp_right (hcloses s)
  · rw [hk.list]
    exact fun a ha => hadmitted a (h.listed a ha)

theorem mem_live_of_none {s : SRTSOCKET} (h : σ.sweepRest = none) :
    s ∈ σ.live.map Prod.fst ↔ s ∈ σ.clientList := by
  rw [live_of_none h]
  exact mem_map_fst_toList

theorem Registry.effect (h : Registry σ) (he : Effect cb σ σ') : Registry σ' := by
  cases he with
  | quiet hk hstage hbooks =>
      refine h.kept hk ?_ ?_ ?_ <;> rw [hbooks]
      · exact fun _ hs => hs
      · exact fun _ ha => ha
      · rw [hstage]
        exact h.pending
  | foreign hk hstage s hs hbooks =>
      refine h.kept hk ?_ ?_ ?_ <;> rw [hbooks]
      · exact fun _ hs => List.mem_cons_of_mem _ hs
      · exact fun _ ha => ha
      · rw [hstage]
        exact h.pending
  | accept hk s hstage hbooks =>
      refine h.kept hk ?_ ?_ ?_ <;> rw [hbooks]
      · exact fun _ hs => hs
      · exact fun _ ha => ha
      · rw [hstage.2]
        exact fun a ha => nomatch ha
  | connect hk s c hstage hbooks =>
      refine h.kept hk ?_ ?_ ?_ <;> rw [hbooks]
      · exact fun _ hs => hs
      · exact fun _ ha => List.mem_cons_of_mem _ ha
      · rw [hstage.2]
        exact fun a ha => List.mem_cons.mpr (.inl (List.mem_singleton.mp ha))
  | reject hk s hstage hbooks =>
      refine h.kept hk ?_ ?_ ?_ <;> rw [hbooks]
      · exact fun _ hs => hs
      · exact fun _ ha => ha
      · rw [hstage.2]
        exact fun a ha => nomatch ha
  | refuse hk s hstage hbooks =>
      refine h.kept hk ?_ ?_ ?_ <;> rw [hbooks]
      · exact fun _ hs => hs
      · exact fun _ ha => ha
      · rw [hstage.2]
        exact fun a ha => nomatch ha
  | insert s c hstage hsweep hlist hsubs hcreated hbooks =>
      have hpending := h.pending (s, c) (by rw [hstage.1]; exact List.mem_singleton_self _)
      refine ⟨?_, ?_, ?_, ?_⟩
      · intro sub hsub
        rw [mem_live_of_none hsweep.2, hlist, Std.TreeMap.mem_insert]
        rcases hsubs sub hsub with hold | heq
        · exact .inr ((mem_live_of_none hsweep.1).mp (h.subs sub hold))
        · exact .inl (by simp [heq])
      · exact fun s' hs' => .inl ((mem_live_of_none hsweep.2).mpr hs')
      · rw [hstage.2]
        exact fun a ha => nomatch ha
      · rintro ⟨s', c'⟩ ha
        rw [hbooks]
        rw [Std.TreeMap.mem_toList_iff_getElem?_eq_some, hlist,
          Std.TreeMap.getElem?_insert] at ha
        split at ha
        · next heq =>
            obtain rfl : s = s' := by simpa using heq
            obtain rfl := Option.some.inj ha
            exact hpending
        · exact h.listed _ (Std.TreeMap.mem_toList_iff_getElem?_eq_some.mpr ha)
  | sweepLock hstage hsweep hlist hsubs hcreated hbooks =>
      have hlive : σ'.live = σ.live := by
        rw [live_of_none hsweep.1, live_of_some hsweep.2]
      refine ⟨?_, ?_, ?_, ?_⟩
      · rw [hlive, hsubs]
        exact h.subs
      · rw [hlive, hlist, hbooks]
        exact h.visited
      · rw [hstage, hbooks]
        exact h.pending
      · rw [hlist, hbooks]
        exact h.listed
  | visit a rest hstage hsweep hlist hsubs hcreated hbooks =>
      have hlive : ∀ s ∈ σ.live.map Prod.fst, s = a.1 ∨ s ∈ σ'.live.map Prod.fst := by
        intro s hs
        rw [live_of_some hsweep.1] at hs
        rw [live_of_some hsweep.2]
        exact List.mem_cons.mp hs
      refine ⟨?_, ?_, ?_, ?_⟩
      · intro sub hsub
        obtain ⟨hold, hne⟩ := hsubs sub hsub
        exact (hlive _ (h.subs sub hold)).resolve_left hne
      · intro s hs
        rw [hlist] at hs
        rw [hbooks]
        rcases h.visited s hs with hs | hclosed
        · rcases hlive s hs with rfl | hs
          · exact .inr List.mem_cons_self
          · exact .inl hs
        · exact .inr (List.mem_cons_of_mem _ hclosed)
      · rw [hstage, hbooks]
        exact h.pending
      · rw [hlist, hbooks]
        exact h.listed
  | sweepClear hstage hsweep hlist hsubs hcreated hbooks =>
      refine ⟨?_, ?_, ?_, ?_⟩
      · intro sub hsub
        have hmem := h.subs sub (hsubs ▸ hsub)
        rw [live_of_some hsweep.1] at hmem
        exact nomatch hmem
      · exact fun s hs => .inl ((mem_live_of_none hsweep.2).mpr hs)
      · rw [hstage, hbooks]
        exact h.pending
      · rw [hlist]
        exact fun a ha => nomatch ha
  | evict s c hstage hsweep hfind hlist hsubs hcreated hbooks =>
      refine ⟨?_, ?_, ?_, ?_⟩
      · intro sub hsub
        obtain ⟨hold, hne⟩ := hsubs sub hsub
        rw [mem_live_of_none hsweep.2, hlist, Std.TreeMap.mem_erase]
        exact ⟨by simpa using Ne.symm hne, (mem_live_of_none hsweep.1).mp (h.subs sub hold)⟩
      · exact fun s' hs' => .inl ((mem_live_of_none hsweep.2).mpr hs')
      · rw [hstage, hbooks]
        exact h.pending
      · rintro ⟨s', c'⟩ ha
        rw [hbooks]
        rw [Std.TreeMap.mem_toList_iff_getElem?_eq_some, hlist,
          Std.TreeMap.getElem?_erase] at ha
        split at ha
        · cases ha
        · exact h.listed _ (Std.TreeMap.mem_toList_iff_getElem?_eq_some.mpr ha)

theorem registry_reachable (h : (system cb).ReachableUnder ok σ) : Registry σ := by
  refine invariant_of_moves (P := Registry) ?_ ?_ h
  · exact ⟨fun _ hs => (nomatch hs), fun _ hs => absurd hs (Std.TreeMap.not_mem_of_isEmpty rfl),
      fun _ hs => (nomatch hs), fun _ hs => (nomatch hs)⟩
  · intro σ t i σ' hreach hs _ _ hm
    exact hs.effect (effect_of_move hreach hm)

/-! ## Entries disappear only after they are closed -/

/-- A socket that is, or was, a client. -/
def Known (σ : State) (s : SRTSOCKET) : Prop :=
  s ∈ σ.clientList ∨ s ∈ σ.books.closes

/-- Moves that leave the list and the closed sockets alone. -/
theorem Known.of_eq {s : SRTSOCKET} (h : Known σ s) (hlist : σ'.clientList = σ.clientList)
    (hcloses : σ'.books.closes = σ.books.closes) : Known σ' s := by
  unfold Known
  rw [hlist, hcloses]
  exact h

/-- Moves that leave the list alone and close a socket. -/
theorem Known.close {s s' : SRTSOCKET} (h : Known σ s) (hlist : σ'.clientList = σ.clientList)
    (hcloses : σ'.books.closes = s' :: σ.books.closes) : Known σ' s := by
  unfold Known
  rw [hlist, hcloses]
  exact h.imp_right (List.mem_cons_of_mem _)

theorem Known.effect (hreg : Registry σ) (he : Effect cb σ σ') {s : SRTSOCKET}
    (h : Known σ s) : Known σ' s := by
  cases he with
  | quiet hk _ hbooks => exact h.of_eq hk.list (by rw [hbooks])
  | foreign hk hstage s' hs' hbooks => exact h.close hk.list (by rw [hbooks])
  | accept hk _ _ hbooks => exact h.of_eq hk.list (by rw [hbooks])
  | connect hk _ _ _ hbooks => exact h.of_eq hk.list (by rw [hbooks])
  | reject hk _ _ hbooks => exact h.of_eq hk.list (by rw [hbooks])
  | refuse hk _ _ hbooks => exact h.of_eq hk.list (by rw [hbooks])
  | insert s' c hstage hsweep hlist hsubs hcreated hbooks =>
      unfold Known
      rw [hlist, hbooks, Std.TreeMap.mem_insert]
      exact h.imp_left .inr
  | sweepLock hstage hsweep hlist hsubs hcreated hbooks =>
      exact h.of_eq hlist (by rw [hbooks])
  | visit a rest hstage hsweep hlist hsubs hcreated hbooks =>
      exact h.close hlist (by rw [hbooks]; rfl)
  | sweepClear hstage hsweep hlist hsubs hcreated hbooks =>
      right
      rw [hbooks]
      rcases h with hmem | hclosed
      · -- every entry has been visited
        rcases hreg.visited s hmem with hlive | hclosed
        · rw [live_of_some hsweep.1] at hlive
          exact nomatch hlive
        · exact hclosed
      · exact hclosed
  | evict s' c hstage hsweep hfind hlist hsubs hcreated hbooks =>
      unfold Known
      rw [hlist, hbooks, Std.TreeMap.mem_erase]
      rcases h with hmem | hclosed
      · by_cases heq : s' = s
        · exact .inr (heq ▸ List.mem_cons_self)
        · exact .inl ⟨by simpa using heq, hmem⟩
      · exact .inr (List.mem_cons_of_mem _ hclosed)

end

/-! ## Conditions on a run -/

/-- The batch that `serverEventHandler` is working through. -/
def Pc.batch : Pc → Option Batch
  | .serverEventHandler (.recv b) => some b
  | .serverEventHandler (.handle b _) => some b
  | .callback (.event b) _ => some b
  | _ => none

/-- The batch from which the next message is about to be received. -/
def Pc.receives : Pc → Option Batch
  | .serverEventHandler (.recv b) => some b
  | _ => none

/-- `serverEventHandler` is in `srt_epoll_uwait`. -/
def Pc.polls : Pc → Bool
  | .serverEventHandler (.uwait _) => true
  | _ => false

/-- A message has been received and its sender not yet been looked up. -/
def Pc.holdsData : Pc → Bool
  | .serverEventHandler (.handle _ result) => decide (0 < result)
  | _ => false

/-- `closeAllClientSockets` is about to clear the list. -/
def Pc.clears : Pc → Bool
  | .closeAllClientSockets _ (.next []) => true
  | _ => false

/-- A positive length. -/
def Input.isData : Input → Bool
  | .answer r => decide (0 < r)
  | _ => false

/-- The sockets `srt_epoll_uwait` found ready. -/
def Input.readySockets : Input → List SRTSOCKET
  | .ready (some fds) => fds
  | _ => []

/-- The event thread has a message whose sender it has not looked up. -/
def State.holdsData (σ : State) : Bool :=
  σ.eventThread.any (fun t => (σ.pc t).holdsData)

/-- SRT's side of `srt_epoll_uwait`: only subscribed sockets are ready. -/
def UwaitSound (σ : State) (ti : Tid × Input) : Prop :=
  (σ.pc ti.1).polls = true → ∀ s ∈ ti.2.readySockets, (σ.pollId, s) ∈ σ.subs

/-- SRT's side of `srt_recvmsg2`: a closed socket has no messages. -/
def RecvSound (σ : State) (ti : Tid × Input) : Prop :=
  ∀ b ∈ (σ.pc ti.1).receives, ti.2.isData = true → b.thisSocket ∉ σ.closes

/-- A slot of `ready` that `srt_epoll_uwait` did not write yields a message only
if it happens to hold a client. -/
def NoStrayData (σ : State) (ti : Tid × Input) : Prop :=
  ∀ b ∈ (σ.pc ti.1).receives, ti.2.isData = true → b.filled ≤ b.i →
    b.thisSocket ∈ σ.clientList

/-- The list is not cleared between a message and the lookup of its sender. -/
def ClearsInTime (σ : State) (ti : Tid × Input) : Prop :=
  ¬ ((σ.pc ti.1).clears = true ∧ σ.holdsData = true)

/-- The steps of a run in which every sender is found. -/
def KeepsSenders (σ : State) (ti : Tid × Input) : Prop :=
  UwaitSound σ ti ∧ RecvSound σ ti ∧ NoStrayData σ ti ∧ ClearsInTime σ ti

instance (σ : State) (ti : Tid × Input) : Decidable (KeepsSenders σ ti) :=
  inferInstanceAs (Decidable (
    ((σ.pc ti.1).polls = true → ∀ s ∈ ti.2.readySockets, (σ.pollId, s) ∈ σ.subs) ∧
    (∀ b ∈ (σ.pc ti.1).receives, ti.2.isData = true → b.thisSocket ∉ σ.closes) ∧
    (∀ b ∈ (σ.pc ti.1).receives, ti.2.isData = true → b.filled ≤ b.i →
      b.thisSocket ∈ σ.clientList) ∧
    ¬ ((σ.pc ti.1).clears = true ∧ σ.holdsData = true)))

/-! ## Batches and messages -/

/-- The slots still to be visited hold sockets that are, or were, clients, and
the sender of a message in hand is in the list. -/
structure DataPath (σ : State) : Prop where
  batch : ∀ t b, (σ.pc t).batch = some b → ∀ j, b.i ≤ j → j < b.filled →
    Known σ (b.ready.getD j 0)
  data : ∀ t b result, σ.pc t = .serverEventHandler (.handle b result) → 0 < result →
    b.thisSocket ∈ σ.clientList

/-- The same array, with no more slots to visit. -/
structure Batch.Within (b' b : Batch) : Prop where
  ready : b'.ready = b.ready
  filled : b'.filled = b.filled
  i : b.i ≤ b'.i

/-- The same batch, or the batch at its next slot. -/
def Batch.Follows (b' b : Batch) : Prop :=
  b' = b ∨ b.i + 1 < b.ret ∧ b' = { b with i := b.i + 1 }

theorem Batch.Follows.within {b b' : Batch} (h : b'.Follows b) : b'.Within b := by
  rcases h with rfl | ⟨-, rfl⟩
  · exact ⟨rfl, rfl, le_rfl⟩
  · exact ⟨rfl, rfl, Nat.le_succ _⟩

theorem Batch.next_follows {b b' : Batch}
    (h : (Pc.serverEventHandler b.next).batch = some b') : b'.Follows b := by
  unfold Batch.next at h
  split at h
  · next hlt =>
      obtain rfl := Option.some.inj h
      exact .inr ⟨hlt, rfl⟩
  · cases h

theorem Batch.next_holdsData (b : Batch) :
    (Pc.serverEventHandler b.next).holdsData = false := by
  unfold Batch.next
  split <;> rfl

/-- The array that a positive answer of `srt_epoll_uwait` is read from. -/
theorem batch_of_answer {ret : Int} {ready : List SRTSOCKET} {filled : Nat} {b : Batch}
    (h : (Pc.serverEventHandler (if 0 < ret then .recv ⟨ready, filled, ret.toNat, 0⟩
      else .head ready)).batch = some b) : b.ready = ready ∧ b.filled = filled := by
  split at h
  · obtain rfl := Option.some.inj h
    exact ⟨rfl, rfl⟩
  · cases h

/-- The slots counted by `filled` hold sockets that were found ready. -/
theorem afterUwait_batch {fds : Option (List SRTSOCKET)} {ready : List SRTSOCKET} {b : Batch}
    (h : (Pc.serverEventHandler (afterUwait fds ready)).batch = some b) {j : Nat}
    (hj : j < b.filled) : b.ready.getD j 0 ∈ (Input.ready fds).readySockets := by
  obtain ⟨hready, hfilled⟩ := batch_of_answer h
  rw [hfilled] at hj
  rw [hready]
  cases fds with
  | none => exact absurd hj (Nat.not_lt_zero j)
  | some fds =>
      have hmin : j < min UWAIT_CAPACITY fds.length := hj
      have hlength : j < fds.length := (Nat.lt_min.mp hmin).2
      have hget : (fds.take UWAIT_CAPACITY ++
          ready.drop (min UWAIT_CAPACITY fds.length)).getD j 0 = fds.get ⟨j, hlength⟩ := by
        simp [List.getD, List.getElem?_append, hmin]
      exact hget ▸ List.get_mem fds ⟨j, hlength⟩

theorem afterUwait_holdsData (fds : Option (List SRTSOCKET)) (ready : List SRTSOCKET) :
    (Pc.serverEventHandler (afterUwait fds ready)).holdsData = false := by
  unfold afterUwait
  dsimp only
  split <;> split <;> rfl

section

variable {cb : Callbacks} {σ σ' : State} {t : Tid} {i : Input}
  {ok : State → Tid × Input → Prop}

/-- `serverEventHandler` is executed by the event thread only. -/
theorem event_of_kind (hlife : Lifecycle σ) (ht : Threads σ)
    (hkind : (σ.pc t).kind = .event) : σ.eventThread = some t := by
  have hruns := ht.runs t
  rw [hkind] at hruns
  cases t with
  | event k => exact hlife.event_alive k hkind
  | _ => simp [Tid.runs] at hruns

theorem Pc.holdsData_iff {p : Pc} : p.holdsData = true ↔
    ∃ b result, p = .serverEventHandler (.handle b result) ∧ 0 < result := by
  unfold Pc.holdsData
  split
  · simp
  · next hne =>
      constructor
      · intro h
        cases h
      · rintro ⟨b, result, rfl, -⟩
        exact absurd rfl (hne b result)

theorem Silent.batch {p p' : Pc} (hs : Silent p p') {b : Batch} (h : p'.batch = some b) :
    p.batch = some b := by
  cases hs with
  | lockFree site => exact h
  | _ => cases h

theorem Silent.holdsData {p p' : Pc} (hs : Silent p p') : p'.holdsData = false := by
  cases hs <;> rfl

theorem callback_batch (site : CallbackSite) (pc pc' : CallbackPc) :
    (Pc.callback site pc').batch = (Pc.callback site pc).batch := by
  cases site <;> rfl

/-- Where the batch of a thread comes from: it had it, at this slot or the one
before, or `srt_epoll_uwait` has just answered it. -/
def FromBatch (σ : State) (t : Tid) (i : Input) (u : Tid) (b' : Batch) : Prop :=
  (∃ b, (σ.pc u).batch = some b ∧ b'.Follows b) ∨
    ∃ fds ready, i = .ready fds ∧ σ.pc t = .serverEventHandler (.uwait ready) ∧
      (Pc.serverEventHandler (afterUwait fds ready)).batch = some b'

theorem FromBatch.update {q : Pc} {u : Tid} {b' : Batch}
    (hpc : σ'.pc = Function.update σ.pc t q)
    (hq : q.batch = some b' → FromBatch σ t i t b')
    (h : (σ'.pc u).batch = some b') : FromBatch σ t i u b' := by
  rw [hpc] at h
  rcases of_update (P := fun p => p.batch = some b') h with ⟨rfl, hnew⟩ | hold
  · exact hq hnew
  · exact .inl ⟨b', hold, .inl rfl⟩

theorem FromBatch.update_none {q : Pc} {u : Tid} {b' : Batch}
    (hpc : σ'.pc = Function.update σ.pc t q) (hq : q.batch = none)
    (h : (σ'.pc u).batch = some b') : FromBatch σ t i u b' := by
  refine FromBatch.update hpc (fun hnew => ?_) h
  rw [hq] at hnew
  cases hnew

theorem FromBatch.spawn {w u : Tid} {p q : Pc} {b' : Batch}
    (hpc : σ'.pc = Function.update (Function.update σ.pc w p) t q)
    (hp : p.batch = none) (hq : q.batch = none)
    (h : (σ'.pc u).batch = some b') : FromBatch σ t i u b' := by
  rw [hpc] at h
  rcases of_update (P := fun p => p.batch = some b') h with ⟨-, hnew⟩ | hold
  · rw [hq] at hnew
    cases hnew
  · rcases of_update (P := fun p => p.batch = some b') hold with ⟨-, hnew⟩ | hold
    · rw [hp] at hnew
      cases hnew
    · exact .inl ⟨b', hold, .inl rfl⟩

/-- What a move does to the batches. -/
theorem Move.batch (hm : Move cb σ t i σ') {u : Tid} {b' : Batch}
    (h : (σ'.pc u).batch = some b') : FromBatch σ t i u b' := by
  cases hm with
  | silent hp hs =>
      refine FromBatch.update rfl (fun hnew => .inl ⟨b', ?_, .inl rfl⟩) h
      rw [hp]
      exact hs.batch hnew
  | enter c hp =>
      exact FromBatch.update_none rfl (by cases c <;> rfl) h
  | askStatistics hp =>
      refine FromBatch.update rfl (fun hnew => .inl ⟨b', ?_, .inl rfl⟩) h
      rw [hp]
      exact callback_batch _ _ _ ▸ hnew
  | takeNet hp hs hfree =>
      refine FromBatch.update rfl (fun hnew => .inl ⟨b', ?_, .inl rfl⟩) h
      rw [hp]
      cases hs with
      | callback site => exact callback_batch site _ _ ▸ hnew
      | _ => cases hnew
  | dropNet hp hs =>
      refine FromBatch.update rfl (fun hnew => .inl ⟨b', ?_, .inl rfl⟩) h
      rw [hp]
      cases hs with
      | callback site => exact callback_batch site _ _ ▸ hnew
      | _ => cases hnew
  | publishServer hp hfree => exact FromBatch.spawn rfl rfl rfl h
  | publishClient hp hfree => exact FromBatch.spawn rfl rfl rfl h
  | publishFault server client mode hp hjoinable => exact .inl ⟨b', h, .inl rfl⟩
  | stopClose hp hr =>
      rename_i mode r
      exact FromBatch.update_none rfl (by cases mode <;> rfl) h
  | stopSkipClose hp hcontext =>
      rename_i mode
      exact FromBatch.update_none rfl (by cases mode <;> rfl) h
  | sweepClear hp =>
      rename_i caller
      exact FromBatch.update_none rfl (by cases caller <;> rfl) h
  | spawnEvent ready hp hfree => exact FromBatch.spawn rfl rfl rfl h
  | spawnFault hp hjoinable => exact .inl ⟨b', h, .inl rfl⟩
  | uwait fds hp =>
      exact FromBatch.update rfl (fun hnew => .inr ⟨fds, _, rfl, hp, hnew⟩) h
  | recv result hp =>
      exact FromBatch.update rfl (fun hnew => .inl ⟨b', by rw [hp]; exact hnew, .inl rfl⟩) h
  | handleSkip hp =>
      exact FromBatch.update rfl
        (fun hnew => .inl ⟨_, by rw [hp]; rfl, Batch.next_follows hnew⟩) h
  | evict r hp hfree hfind hcb =>
      exact FromBatch.update rfl (fun hnew => .inl ⟨b', by rw [hp]; exact hnew, .inl rfl⟩) h
  | evictQuiet r hp hfree hfind hcb =>
      exact FromBatch.update rfl
        (fun hnew => .inl ⟨_, by rw [hp]; rfl, Batch.next_follows hnew⟩) h
  | deliver hp hfree hfind =>
      exact FromBatch.update rfl (fun hnew => .inl ⟨b', by rw [hp]; exact hnew, .inl rfl⟩) h
  | readEnd hp => exact .inl ⟨b', h, .inl rfl⟩
  | eventDone hp =>
      exact FromBatch.update rfl
        (fun hnew => .inl ⟨_, by rw [hp]; rfl, Batch.next_follows hnew⟩) h
  | _ => exact FromBatch.update_none rfl rfl h

/-- The slots of a batch hold clients after a move. -/
theorem DataPath.batch_move (h : DataPath σ) (hreg : Registry σ) (hclients : Clients cb σ)
    (hknown : ∀ s, Known σ s → Known σ' s) (hok : KeepsSenders σ (t, i))
    (hm : Move cb σ t i σ') {u : Tid} {b' : Batch} (hb' : (σ'.pc u).batch = some b') {j : ℕ}
    (hj : b'.i ≤ j) (hfilled : j < b'.filled) : Known σ' (b'.ready.getD j 0) := by
  apply hknown
  rcases hm.batch hb' with ⟨b, hb, hfollows⟩ | ⟨fds, ready, rfl, hp, hnew⟩
  · have hwithin := hfollows.within
    rw [hwithin.ready]
    exact h.batch u b hb j (hwithin.i.trans hj) (hwithin.filled ▸ hfilled)
  · -- a socket that is found ready is subscribed, and so it is a client
    have hsub := hok.1 (by rw [hp]; rfl) _ (afterUwait_batch hnew hfilled)
    obtain ⟨a, ha, heq⟩ := List.mem_map.mp (hreg.subs _ hsub)
    refine .inl (mem_map_fst_toList.mp (List.mem_map.mpr ⟨a, hclients.live_subset a ha, ?_⟩))
    exact heq

/-- The sender of every message in hand is in the list. -/
def Senders (σ : State) : Prop :=
  ∀ t b result, σ.pc t = .serverEventHandler (.handle b result) → 0 < result →
    b.thisSocket ∈ σ.clientList

/-- A thread moves on without a message. -/
theorem Senders.local (h : Senders σ) {q : Pc} (hpc : σ'.pc = Function.update σ.pc t q)
    (hdata : q.holdsData = false)
    (hlist : ∀ u, u ≠ t → (σ.pc u).holdsData = true →
      ∀ s ∈ σ.clientList, s ∈ σ'.clientList) : Senders σ' := by
  intro u b result hp hresult
  rw [hpc] at hp
  by_cases hu : u = t
  · subst hu
    rw [Function.update_self] at hp
    simp [hp, Pc.holdsData, hresult] at hdata
  · rw [Function.update_of_ne hu] at hp
    exact hlist u hu (Pc.holdsData_iff.mpr ⟨b, result, hp, hresult⟩) _ (h u b result hp hresult)

/-- A thread moves on without a message, and the list stays. -/
theorem Senders.goto (h : Senders σ) {q : Pc} (hpc : σ'.pc = Function.update σ.pc t q)
    (hdata : q.holdsData = false) (hlist : σ'.clientList = σ.clientList) : Senders σ' :=
  h.local hpc hdata (fun _ _ _ _ hs => hlist ▸ hs)

/-- A session thread is created. -/
theorem Senders.spawn (h : Senders σ) {w : Tid} {p q : Pc}
    (hpc : σ'.pc = Function.update (Function.update σ.pc w p) t q)
    (hdata : p.holdsData = false ∧ q.holdsData = false)
    (hlist : σ'.clientList = σ.clientList) : Senders σ' := by
  have hmid : Senders (σ.goto w p) := h.goto rfl hdata.1 rfl
  exact hmid.goto hpc hdata.2 hlist

/-- The event thread removes a client: no other thread holds a message. -/
theorem Senders.evict (h : Senders σ) (hlife : Lifecycle σ) (ht : Threads σ) {b : Batch}
    {result : Int} {q : Pc} (hp : σ.pc t = .serverEventHandler (.handle b result))
    (hpc : σ'.pc = Function.update σ.pc t q) (hdata : q.holdsData = false) : Senders σ' := by
  refine h.local hpc hdata ?_
  intro u hu hholds
  have hut : σ.eventThread = some u := by
    obtain ⟨b', result', hp', -⟩ := Pc.holdsData_iff.mp hholds
    exact event_of_kind hlife ht (by rw [hp']; rfl)
  have htt : σ.eventThread = some t := event_of_kind hlife ht (by rw [hp]; rfl)
  exact absurd (Option.some.inj (hut.symm.trans htt)) hu

/-- A message arrives: its sender is a client. -/
theorem DataPath.recv (h : DataPath σ) {b : Batch} {result : Int}
    (hok : KeepsSenders σ (t, .answer result)) (hp : σ.pc t = .serverEventHandler (.recv b)) :
    Senders (σ.goto t (.serverEventHandler (.handle b result))) := by
  have hreceives : b ∈ (σ.pc t).receives := by
    rw [hp]
    rfl
  intro u b' result' hp' hresult'
  rcases of_update (P := fun p => p = .serverEventHandler (.handle b' result')) hp' with
    ⟨-, hnew⟩ | hold
  · simp only [Pc.serverEventHandler.injEq, EventPc.handle.injEq] at hnew
    obtain ⟨rfl, rfl⟩ := hnew
    have hdata : (Input.answer result).isData = true := by simpa [Input.isData] using hresult'
    by_cases hfilled : b.i < b.filled
    · -- a slot of this batch: the socket was a client and is not closed
      have hknown := h.batch t b (by rw [hp]; rfl) b.i le_rfl hfilled
      exact hknown.resolve_right (hok.2.1 b hreceives hdata)
    · exact hok.2.2.1 b hreceives hdata (Nat.le_of_not_lt hfilled)
  · exact h.data u b' result' hold hresult'

theorem DataPath.senders_move (h : DataPath σ) (hlife : Lifecycle σ) (ht : Threads σ)
    (hok : KeepsSenders σ (t, i)) (hm : Move cb σ t i σ') : Senders σ' := by
  have hdata : Senders σ := h.data
  cases hm with
  | silent hp hs => exact hdata.goto rfl hs.holdsData rfl
  | enter c hp => exact hdata.goto rfl (by cases c <;> rfl) rfl
  | takeNet hp hs hfree => exact hdata.goto rfl (by cases hs <;> rfl) rfl
  | dropNet hp hs => exact hdata.goto rfl (by cases hs <;> rfl) rfl
  | publishServer hp hfree => exact hdata.spawn rfl ⟨rfl, rfl⟩ rfl
  | publishClient hp hfree => exact hdata.spawn rfl ⟨rfl, rfl⟩ rfl
  | publishFault server client mode hp hjoinable => exact hdata
  | stopClose hp hr =>
      rename_i mode r
      exact hdata.goto rfl (by cases mode <;> rfl) rfl
  | stopSkipClose hp hcontext =>
      rename_i mode
      exact hdata.goto rfl (by cases mode <;> rfl) rfl
  | sweepClear hp =>
      rename_i caller
      refine hdata.local rfl (by cases caller <;> rfl) ?_
      -- nobody holds a message while the list is cleared
      intro u _ hholds
      obtain ⟨b, result, hu, -⟩ := Pc.holdsData_iff.mp hholds
      have hevent := event_of_kind hlife ht (t := u) (by rw [hu]; rfl)
      refine absurd ⟨?_, ?_⟩ hok.2.2.2
      · rw [hp]
        rfl
      · rw [State.holdsData, hevent]
        exact hholds
  | spawnEvent ready hp hfree => exact hdata.spawn rfl ⟨rfl, rfl⟩ rfl
  | spawnFault hp hjoinable => exact hdata
  | insert r hp hfree =>
      refine hdata.local rfl rfl ?_
      exact fun _ _ _ s hs => Std.TreeMap.mem_insert.mpr (.inr hs)
  | uwait fds hp => exact hdata.goto rfl (afterUwait_holdsData fds _) rfl
  | recv result hp => exact h.recv hok hp
  | handleSkip hp => exact hdata.goto rfl (Batch.next_holdsData _) rfl
  | evict r hp hfree hfind hcb => exact hdata.evict hlife ht hp rfl rfl
  | evictQuiet r hp hfree hfind hcb =>
      exact hdata.evict hlife ht hp rfl (Batch.next_holdsData _)
  | readEnd hp => exact hdata
  | eventDone hp => exact hdata.goto rfl (Batch.next_holdsData _) rfl
  | _ => exact hdata.goto rfl rfl rfl

theorem DataPath.move (h : DataPath σ) (hlife : Lifecycle σ) (ht : Threads σ)
    (hreg : Registry σ) (hclients : Clients cb σ) (he : Effect cb σ σ')
    (hok : KeepsSenders σ (t, i)) (hm : Move cb σ t i σ') : DataPath σ' where
  batch := by
    intro u b' hb' j hj hfilled
    exact h.batch_move hreg hclients (fun s => Known.effect hreg he) hok hm hb' hj hfilled
  data := h.senders_move hlife ht hok hm

theorem dataPath_reachable (h : (system cb).ReachableUnder KeepsSenders σ) : DataPath σ := by
  refine invariant_of_moves (P := DataPath) ?_ ?_ h
  · exact ⟨fun _ _ hb => (nomatch hb), fun _ _ _ hp => (nomatch hp)⟩
  · intro σ t i σ' hreach hs hok _ hm
    exact hs.move (lifecycle_reachable hreach) (threads_reachable hreach)
      (registry_reachable hreach) (clients_reachable hreach) (effect_of_move hreach hm) hok hm

/-! ## Every sender is found -/

/-- An entry of the list was admitted under its context. -/
theorem admitted_of_listed (h : (system cb).ReachableUnder ok σ) {s : SRTSOCKET} {c : Context}
    (hfind : σ.clientList[s]? = some c) : (s, c) ∈ σ.admitted :=
  (registry_reachable h).listed (s, c) (Std.TreeMap.mem_toList_iff_getElem?_eq_some.mpr hfind)

/-- A server delivers messages of clients it finds in the list only. -/
theorem Move.received (hm : Move cb σ t i σ') {c : Option Context} {s : SRTSOCKET}
    (hmem : .received .server c s ∈ σ'.trace) :
    .received .server c s ∈ σ.trace ∨ ∃ c', c = some c' ∧ σ.clientList[s]? = some c' := by
  cases hm with
  | deliver hp hfree hfind =>
      rcases List.mem_cons.mp hmem with heq | hmem
      · obtain ⟨-, rfl, rfl⟩ := Event.received.inj heq
        exact .inr ⟨_, rfl, hfind⟩
      · exact .inl hmem
  | _ => exact .inl (by simpa [destroyMembers, unlockNet] using hmem)

/-- Messages are delivered with the context their sender was admitted under. -/
theorem received_admitted (h : (system cb).ReachableUnder ok σ) :
    ∀ c s, .received .server c s ∈ σ.trace → ∃ c', c = some c' ∧ (s, c') ∈ σ.admitted := by
  refine invariant_of_moves (P := fun σ => ∀ c s, .received .server c s ∈ σ.trace →
    ∃ c', c = some c' ∧ (s, c') ∈ σ.admitted) ?_ ?_ h
  · intro c s hmem
    simp [State.init] at hmem
  · intro σ t i σ' hreach hs _ _ hm c s hmem
    have hgrows : ∀ c', (s, c') ∈ σ.admitted → (s, c') ∈ σ'.admitted := by
      simp only [State.mem_admitted]
      exact fun c' => hm.trace_subset _
    rcases hm.received hmem with hold | ⟨c', rfl, hfind⟩
    · obtain ⟨c', rfl, hadm⟩ := hs c s hold
      exact ⟨c', rfl, hgrows c' hadm⟩
    · exact ⟨c', rfl, hgrows c' (admitted_of_listed hreach hfind)⟩

/-- The end of the list is never read. -/
theorem halted_ne_endIteratorRead (h : (system cb).ReachableUnder KeepsSenders σ) :
    σ.halted ≠ some .endIteratorRead := by
  refine invariant_of_moves (P := fun σ => σ.halted ≠ some .endIteratorRead)
    (by simp [State.init]) ?_ h
  intro σ t i σ' hreach hs _ _ hm
  cases hm with
  | publishFault => simp
  | destroy hp =>
      simp only [destroyMembers]
      split <;> simp
  | spawnFault => simp
  | readEnd hp hfree hresult hfind =>
      have hmem := (dataPath_reachable hreach).data _ _ _ hp hresult
      exact absurd hmem (by simpa using hfind)
  | _ => exact hs

/-- **The data path.**  If the list is never cleared between a message and the
lookup of its sender, and slots that `srt_epoll_uwait` did not write yield no
messages of strangers, then every lookup for a message succeeds, with the
context `clientConnected` returned for the socket, and every message was
delivered with that context. -/
theorem sender_found (h : (system cb).ReachableUnder KeepsSenders σ) :
    σ.halted ≠ some .endIteratorRead ∧
    (∀ t b result, σ.pc t = .serverEventHandler (.handle b result) → 0 < result →
      ∃ c, σ.clientList[b.thisSocket]? = some c ∧
        .clientConnected b.thisSocket (some c) ∈ σ.trace) ∧
    ∀ c s, .received .server c s ∈ σ.trace →
      ∃ c', c = some c' ∧ .clientConnected s (some c') ∈ σ.trace ∧
        ∀ c'', .clientConnected s (some c'') ∈ σ.trace → c'' = c' := by
  refine ⟨halted_ne_endIteratorRead h, ?_, ?_⟩
  · intro t b result hp hresult
    have hmem := (dataPath_reachable h).data t b result hp hresult
    obtain ⟨c, hfind⟩ := Option.isSome_iff_exists.mp
      ((Std.TreeMap.isSome_getElem?_iff_mem).mpr hmem)
    exact ⟨c, hfind, State.mem_admitted.mp (admitted_of_listed h hfind)⟩
  · intro c s hmem
    obtain ⟨c', rfl, hadm⟩ := received_admitted h c s hmem
    refine ⟨c', rfl, State.mem_admitted.mp hadm, fun c'' hadm' => ?_⟩
    exact admitted_unique h hadm (State.mem_admitted.mpr hadm')

end

/-- A client sends a message, and the server is stopped afterwards. -/
theorem sender_found_before_stop :
    ∃ σ, (system allCallbacks).ReachableUnder KeepsSenders σ ∧
      σ.halted ≠ some .endIteratorRead ∧ .received .server (some 3) 9 ∈ σ.trace ∧
      .clientConnected 9 (some 3) ∈ σ.trace := by
  have hreach := StepSystem.reachableUnder_get (M := system allCallbacks) KeepsSenders
    (startServerRun (.app 0) (testServer 1) 5 ++ serverUpRun 1 3 ++
      schedule (.worker 1) [.tau, .answer 9, .candidate (some 3), .answer 0, .tau] ++
      schedule (.event 1) [.tau, .ready (some [9]), .answer 100, .answer 0, .done] ++
      schedule (.app 0) [.call .stop, .tau, .tau, .answer 0, .tau, .answer 0, .done, .tau]) rfl
  have hfound := sender_found hreach
  obtain ⟨c', heq, hadm, -⟩ := hfound.2.2 (some 3) 9 (by decide)
  obtain rfl := Option.some.inj heq
  exact ⟨_, hreach, hfound.1, by decide, hadm⟩

/-- `stop` clears the list after a message has been received and before its
sender is looked up: the event thread reads the end of the list. -/
theorem sender_lost :
    ∃ σ, (system allCallbacks).Reachable σ ∧
      (∃ b, σ.pc (.event 1) = .serverEventHandler (.handle b 100) ∧ b.thisSocket = 9 ∧
        σ.clientList[b.thisSocket]? = none) ∧
      ∃ σ', (system allCallbacks).step σ (.event 1, .answer 0) = some σ' ∧
        σ'.halted = some .endIteratorRead :=
  ⟨_, StepSystem.reachable_get
      (startServerRun (.app 0) (testServer 1) 5 ++ serverUpRun 1 3 ++
        schedule (.worker 1) [.tau, .answer 9, .candidate (some 3), .answer 0, .tau] ++
        schedule (.event 1) [.tau, .ready (some [9]), .answer 100] ++
        schedule (.app 0) [.call .stop, .tau, .tau, .answer 0, .tau, .answer 0, .done, .tau]) rfl,
    ⟨_, rfl, rfl, by decide⟩, _, rfl, by decide⟩

end SrtNet
