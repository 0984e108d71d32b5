import Xrtc.SrtNetDataPath

/-!
# The slots of the ready array

`serverEventHandler` offers `srt_epoll_uwait` five slots, and `srt_epoll_uwait`
answers one more than the slots it filled when there are more ready sockets than
that.  The loop corrects for an answer of `MAX_WORKERS + 1` instead, so its bound
is the number of slots written exactly as long as no more than five sockets are
ready at once.
-/

namespace SrtNet

/-- The loop will visit written slots only. -/
structure Batch.Written (b : Batch) : Prop where
  inside : b.i < b.ret
  written : b.ret ≤ b.filled

theorem Batch.Written.follows {b b' : Batch} (h : b.Written) (hb : b'.Follows b) :
    b'.Written := by
  rcases hb with rfl | ⟨hlt, rfl⟩
  · exact h
  · exact ⟨hlt, h.written⟩

/-- What a positive answer of `srt_epoll_uwait` makes of the loop bound and of
the number of written slots. -/
theorem afterUwait_bounds {fds : List SRTSOCKET} {ready : List SRTSOCKET} {b : Batch}
    (h : (Pc.serverEventHandler (afterUwait (some fds) ready)).batch = some b) :
    0 < fds.length ∧ b.i = 0 ∧ b.ret = min (UWAIT_CAPACITY + 1) fds.length ∧
      b.filled = min UWAIT_CAPACITY fds.length := by
  have hret : min ((UWAIT_CAPACITY : Int) + 1) fds.length ≠ MAX_WORKERS + 1 := by
    unfold UWAIT_CAPACITY MAX_WORKERS
    omega
  unfold afterUwait srtEpollUwait at h
  simp only [if_neg hret] at h
  split at h
  · next hpos =>
      obtain rfl := Option.some.inj h
      refine ⟨by omega, rfl, ?_, rfl⟩
      show (min ((UWAIT_CAPACITY : Int) + 1) fds.length).toNat = _
      omega
  · cases h

/-- The loop over the answer to `fds` visits written slots only exactly when the
ready sockets fit in the slots that were offered. -/
theorem afterUwait_written_iff {fds ready : List SRTSOCKET} {b : Batch}
    (h : (Pc.serverEventHandler (afterUwait (some fds) ready)).batch = some b) :
    (∀ i < b.ret, i < b.filled) ↔ fds.length ≤ UWAIT_CAPACITY := by
  obtain ⟨hpos, -, hret, hfilled⟩ := afterUwait_bounds h
  rw [hret, hfilled]
  constructor
  · intro hall
    by_contra hmany
    have hlast := hall UWAIT_CAPACITY (by omega)
    omega
  · intro hfew i hi
    omega

/-- No more sockets are ready at once than slots are offered. -/
def FitsCapacity (σ : State) (ti : Tid × Input) : Prop :=
  (σ.pc ti.1).polls = true → ti.2.readySockets.length ≤ UWAIT_CAPACITY

instance (σ : State) (ti : Tid × Input) : Decidable (FitsCapacity σ ti) :=
  inferInstanceAs (Decidable (_ → _))

section

variable {cb : Callbacks} {σ σ' : State} {t : Tid} {i : Input}

/-- As long as the ready sockets fit, every batch is read inside its written
slots. -/
theorem batches_written (h : (system cb).ReachableUnder FitsCapacity σ) :
    ∀ t b, (σ.pc t).batch = some b → b.Written := by
  refine invariant_of_moves (P := fun σ => ∀ t b, (σ.pc t).batch = some b → b.Written) ?_ ?_ h
  · intro t b hb
    cases hb
  · intro σ t i σ' _ hwritten hfits _ hm u b' hb'
    rcases hm.batch hb' with ⟨b, hb, hfollows⟩ | ⟨fds, ready, rfl, hp, hanswer⟩
    · exact (hwritten u b hb).follows hfollows
    · have hpolls : (σ.pc t).polls = true := by
        rw [hp]
        rfl
      cases fds with
      | none => cases hanswer
      | some fds =>
          have hfew : fds.length ≤ UWAIT_CAPACITY := hfits hpolls
          obtain ⟨hpos, hi, hret, hfilled⟩ := afterUwait_bounds hanswer
          exact ⟨by omega, by omega⟩

/-- **The slots that are read.**  If no more sockets are ready at once than the
five slots offered, every slot the loop reads was written by the
`srt_epoll_uwait` that gave the loop its bound; and a call whose ready sockets do
not fit always makes the loop read a slot that was not. -/
theorem ready_slots_written (h : (system cb).ReachableUnder FitsCapacity σ) :
    (∀ t b, (σ.pc t).receives = some b → b.i < b.filled) ∧
    ∀ fds ready b, (Pc.serverEventHandler (afterUwait (some fds) ready)).batch = some b →
      ((∀ i < b.ret, i < b.filled) ↔ fds.length ≤ UWAIT_CAPACITY) := by
  refine ⟨?_, fun fds ready b hb => afterUwait_written_iff hb⟩
  intro t b hb
  have hbatch : (σ.pc t).batch = some b := by
    revert hb
    unfold Pc.receives
    split
    · next heq =>
        intro hb
        rw [heq]
        exact hb
    · intro hb
      cases hb
  have hwritten := batches_written h t b hbatch
  exact Nat.lt_of_lt_of_le hwritten.inside hwritten.written

end

/-- A server with a client for each socket of the list. -/
def clientsRun (sockets : List SRTSOCKET) : List (Tid × Input) :=
  startServerRun (.app 0) (testServer 1) 5 ++ serverUpRun 1 3 ++ schedule (.worker 1) [.tau] ++
    sockets.flatMap (fun s =>
      schedule (.worker 1) [.answer s, .candidate (some 3), .answer 0, .tau])

/-- Five clients with a message each: the last message is received from a
written slot. -/
theorem ready_slots_of_five :
    ∃ σ b, (system allCallbacks).ReachableUnder FitsCapacity σ ∧
      (σ.pc (.event 1)).receives = some b ∧ b.i = 4 ∧ b.i < b.filled := by
  have hreach := StepSystem.reachableUnder_get (M := system allCallbacks) FitsCapacity
    (clientsRun [9, 10, 11, 12, 13] ++
      schedule (.event 1) [.tau, .ready (some [9, 10, 11, 12, 13])] ++
      (List.replicate 4 (schedule (.event 1) [.answer 100, .answer 0, .done])).flatten) rfl
  exact ⟨_, _, hreach, rfl, rfl, (ready_slots_written hreach).1 (.event 1) _ rfl⟩

/-- Six clients with a message each: the loop goes on to a sixth slot, which
holds what the stack held before. -/
theorem sixth_slot_not_written :
    ∃ σ b, (system allCallbacks).Reachable σ ∧
      (σ.pc (.event 1)).receives = some b ∧ b.i = 5 ∧ b.filled = 5 ∧ b.ret = 6 ∧
      b.thisSocket = 0 :=
  ⟨_, _, StepSystem.reachable_get
    (clientsRun [9, 10, 11, 12, 13, 14] ++
      schedule (.event 1) [.tau, .ready (some [9, 10, 11, 12, 13, 14])] ++
      (List.replicate 5 (schedule (.event 1) [.answer 100, .answer 0, .done])).flatten) rfl,
    rfl, rfl, rfl, rfl, rfl⟩

end SrtNet
