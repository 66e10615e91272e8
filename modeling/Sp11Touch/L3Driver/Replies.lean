import Sp11Touch.L3Driver.StormFields
/-!
# Waiting for a reply

`g6ts_dma_feature_exchange` and `g6ts_recovery_read_expected` share one loop.
`Awaited n s seen r` says which responses the loop consumes from `s` with room
for `n`, each by the state it leaves, and how it ends. `awaitReply_awaited`:
every run is one. From it, by induction, `ReplyLaw`: everything before the last
response was streamed, a reset is noted once and ends the wait, and at most 64
responses are consumed.
-/
namespace Sp11Touch

/-- Streaming input, or the acknowledgement of report `0x09`. -/
def Io.streamed (io : Io) : Prop :=
  io.lastClass = classData ∨ io.lastClass = classOutputReportResponse ∧ io.lastContentId = 0x09

namespace Driver
open Proc

section
variable (c : Config) (w : World)

/-- mirrors phase55/modules/mshw0485_touch.c:2459-2465 (waits for one response and reads it) -/
def nextResponse : TsProc Unit := do
  waitPending w
  dmaReadResponse c w

/-- The responses consumed, and the exit. -/
inductive Awaited (done : Io → Bool) : Nat → Ts → List Ts → Ts × Except Errno Unit → Prop
  | overflow (s : Ts) : Awaited done 0 s [] (s, .error .EOVERFLOW)
  | failed {n : Nat} {s t : Ts} {e : Errno} (h : nextResponse c w s = (t, .error e)) :
      Awaited done (n + 1) s [] (t, .error e)
  | expected {n : Nat} {s t : Ts} (h : nextResponse c w s = (t, .ok ())) (hd : done t.io = true) :
      Awaited done (n + 1) s [t] (t, .ok ())
  | reset {n : Nat} {s t : Ts} (h : nextResponse c w s = (t, .ok ())) (hd : done t.io = false)
      (hc : t.io.lastClass = classResetResponse) :
      Awaited done (n + 1) s [t] (notePanelReset c w false t, .error .EPIPE)
  | unexpected {n : Nat} {s t : Ts} (h : nextResponse c w s = (t, .ok ())) (hd : done t.io = false)
      (hc : t.io.lastClass ≠ classResetResponse) (hs : ¬ t.io.streamed) : Awaited done (n + 1) s [t]
      (t, .error .EPROTO)
  | skip {n : Nat} {s t : Ts} {seen : List Ts} {r : Ts × Except Errno Unit}
    (h : nextResponse c w s = (t, .ok ()))
      (hd : done t.io = false) (hs : t.io.streamed) (hr : Awaited done n t seen r) :
      Awaited done (n + 1) s (t :: seen) r

/-- The feature exchange: nothing is consumed before the output is sent. -/
inductive Exchanged (reportType contentId : Nat) (content : Bytes) (done : Io → Bool) (s : Ts) :
    List Ts → Ts × Except Errno Unit → Prop
  | invalid (h : reportType ≠ typeSetFeature ∧ reportType ≠ typeGetFeature) :
      Exchanged reportType contentId content done s [] (s, .error .EINVAL)
  | notSent {t : Ts} {e : Errno} (h : dmaHidspiOutput w reportType contentId content s =
    (t, .ok (some e))) :
      Exchanged reportType contentId content done s [] (t.latch, .error e)
  | sent {t : Ts} {seen : List Ts} {r : Ts × Except Errno Unit}
      (h : dmaHidspiOutput w reportType contentId content s = (t, .ok none))
      (hr : Awaited c w done featureResponseLimit t seen r) :
        Exchanged reportType contentId content done s seen r

end

variable {c : Config} {w : World} {done : Io → Bool}

/-- One turn of the loop. -/
theorem awaitReply_succ (n : Nat) (s : Ts) : awaitReply c w done (n + 1) s =
    match nextResponse c w s with
    | (t, .ok _) => (if done t.io then Pure.pure ()
        else if t.io.lastClass = classResetResponse then do
          modify (notePanelReset c w false)
          throw .EPIPE
        else if t.io.lastClass = classData ∨ t.io.lastClass = classOutputReportResponse ∧
          t.io.lastContentId = 0x09 then
          awaitReply c w done n
        else throw .EPROTO) t
    | (t, .error e) => (t, .error e) := by
  show (waitPending w >>= fun _ => dmaReadResponse c w >>= fun _ => _) s = _
  unfold nextResponse
  rw [bind_apply, bind_apply]
  cases waitPending w s with
  | mk t r => cases r with
    | error e => rfl
    | ok _ =>
      simp only [bind_apply]
      cases dmaReadResponse c w t with
      | mk u r => cases r with
        | error e => rfl
        | ok _ => rfl

/-- By induction on the room left. -/
theorem awaitReply_awaited : ∀ (n : Nat) (s : Ts), ∃ seen, Awaited c w done n s seen
    (awaitReply c w done n s)
  | 0, s => ⟨[], .overflow s⟩
  | n + 1, s => by
    rw [awaitReply_succ]
    cases hnext : nextResponse c w s with
    | mk t r => cases r with
      | error e => exact ⟨[], .failed hnext⟩
      | ok _ =>
        simp only
        cases hd : done t.io with
        | true => exact ⟨[t], .expected hnext hd⟩
        | false =>
          simp only [Bool.false_eq_true, if_false]
          by_cases hc : t.io.lastClass = classResetResponse
          · rw [if_pos hc]
            exact ⟨[t], .reset hnext hd hc⟩
          rw [if_neg hc]
          by_cases hs : t.io.lastClass = classData ∨ t.io.lastClass = classOutputReportResponse ∧
            t.io.lastContentId = 0x09
          · rw [if_pos hs]
            obtain ⟨seen, hr⟩ := awaitReply_awaited n t
            exact ⟨t :: seen, .skip hnext hd hs hr⟩
          · rw [if_neg hs]
            exact ⟨[t], .unexpected hnext hd hc hs⟩

/-- The output returns a status. -/
theorem dmaHidspiOutput_returns (w : World) (reportType contentId : Nat) (content : Bytes)
    (s : Ts) :
    ∃ t ret, dmaHidspiOutput w reportType contentId content s = (t, .ok ret) := by
  unfold dmaHidspiOutput
  split
  · exact ⟨_, _, rfl⟩
  · exact ⟨_, _, rfl⟩

/-- The reply a feature exchange waits for. -/
def exchangeDone (reportType contentId : Nat) (io : Io) : Bool :=
  io.isResponse (if reportType = typeSetFeature then classSetFeatureResponse
    else classGetFeatureResponse) contentId 0

theorem dmaFeatureExchange_exchanged (c : Config) (w : World) (reportType contentId : Nat)
    (content : Bytes) (s : Ts) :
    ∃ seen, Exchanged c w reportType contentId content (exchangeDone reportType contentId) s seen
      (dmaFeatureExchange c w reportType contentId content s) := by
  unfold dmaFeatureExchange
  rw [bind_apply, errorIf_apply]
  by_cases hbad : (decide (reportType ≠ typeSetFeature) && decide (reportType ≠ typeGetFeature)) =
    true
  · rw [if_pos hbad]
    exact ⟨[], .invalid (by simpa using hbad)⟩
  rw [if_neg hbad]
  obtain ⟨t, ret, hout⟩ := dmaHidspiOutput_returns w reportType contentId content s
  simp only [bind_apply, hout]
  cases ret with
  | some e => exact ⟨[], .notSent hout⟩
  | none =>
    obtain ⟨seen, hr⟩ := awaitReply_awaited (c := c) (w := w) featureResponseLimit t
    exact ⟨seen, .sent hout hr⟩

/-! ## What a wait may do -/

/-- No notification was counted and no work queued since `s0`. -/
structure Uncounted (s0 t : Ts) : Prop where
  notifications : t.stats.resetNotifications = s0.stats.resetNotifications
  pending : t.workPending = s0.workPending

theorem uncounted_rule (c : Config) (s0 : Ts) : ReadRule c (Uncounted s0) where
  io _ _ h := ⟨h.notifications, h.pending⟩
  latch _ h := ⟨h.notifications, h.pending⟩
  data s h _ := by
    refine ⟨(handleDataReport_storm c s).notifications.trans h.notifications, ?_⟩
    obtain ⟨heat, stats, awaiting, log, heq⟩ := handleDataReport_frame c s
    rw [heq]
    exact h.pending

theorem nextResponse_uncounted {s0 s t : Ts} {r : Except Errno Unit} (hs : Uncounted s0 s)
    (h : nextResponse c w s = (t, r)) :
    Uncounted s0 t := by
  have hrule := uncounted_rule c s0
  have hkeeps : Keeps (Uncounted s0) (nextResponse c w) :=
    Keeps.bind hrule.toIoRule.waitPending fun _ => hrule.dmaReadResponse
  have hstate := hkeeps.state hs
  rw [h] at hstate
  exact hstate

/-- Input is closed for one more reset, and nothing is queued. -/
structure ClosedByReset (s0 t : Ts) : Prop where
  notifications : t.stats.resetNotifications = s0.stats.resetNotifications + 1
  modeEnabled : t.modeEnabled = false
  awaitingReadyHeat : t.awaitingReadyHeat = false
  tracks : t.heat.tracks = zeroTracks
  pending : t.workPending = s0.workPending

theorem notePanelReset_closes (c : Config) (w : World) {s0 t : Ts} (h : Uncounted s0 t) :
    ClosedByReset s0 (notePanelReset c w false t) := by
  obtain ⟨_, _, _, heq, hn⟩ := notePanelReset_frame c w t
  rw [heq]
  exact ⟨hn.trans (congrArg (· + 1) h.notifications), rfl, rfl, rfl, h.pending⟩

/-- What a run that consumed `seen` from `s0` has done. -/
structure ReplyLaw (done : Io → Bool) (s0 : Ts) (seen : List Ts)
    (r : Ts × Except Errno Unit) : Prop where
  bound : seen.length ≤ featureResponseLimit
  before : ∀ v ∈ seen.dropLast, v.io.streamed
  success : r.2 = .ok () → seen.getLast? = some r.1 ∧ done r.1.io = true
  reset : ∀ v ∈ seen, v.io.lastClass = classResetResponse →
    seen.getLast? = some v ∧ r.2 = .error .EPIPE ∧ ClosedByReset s0 r.1
  unexpected : ∀ v ∈ seen, v.io.lastClass ≠ classResetResponse → ¬ v.io.streamed →
    done v.io = false →
    seen.getLast? = some v ∧ r.2 = .error .EPROTO
  otherwise : (∀ v ∈ seen, v.io.lastClass ≠ classResetResponse) → Uncounted s0 r.1

/-- Nothing was consumed. -/
theorem ReplyLaw.nothing {s0 : Ts} {r : Ts × Except Errno Unit} (hr : r.2 ≠ .ok ())
    (hs : Uncounted s0 r.1) :
    ReplyLaw done s0 [] r where
  bound := Nat.zero_le _
  before _ hv := nomatch hv
  success hok := absurd hok hr
  reset _ hv := nomatch hv
  unexpected _ hv := nomatch hv
  otherwise _ := hs

/-- One response was consumed, and ends the wait. -/
theorem ReplyLaw.last {s0 t : Ts} {r : Ts × Except Errno Unit}
    (hok : r.2 = .ok () → r.1 = t ∧ done t.io = true)
    (hreset : t.io.lastClass = classResetResponse → r.2 = .error .EPIPE ∧ ClosedByReset s0 r.1)
    (hother : t.io.lastClass ≠ classResetResponse → Uncounted s0 r.1 ∧
      (¬ t.io.streamed → done t.io = false → r.2 = .error .EPROTO)) : ReplyLaw done s0 [t] r := by
  have hone : ∀ v ∈ [t], v = t := fun v hv => List.mem_singleton.mp hv
  refine ⟨by simp [featureResponseLimit], fun _ hv => (nomatch hv), fun h => ?_, fun v hv hc => ?_,
    fun v hv hc hs hd => ?_,
    fun hno => (hother (hno t (List.mem_singleton.mpr rfl))).1⟩
  · rw [(hok h).1]
    exact ⟨rfl, (hok h).2⟩
  · rw [hone v hv] at hc ⊢
    exact ⟨rfl, hreset hc⟩
  · rw [hone v hv] at hc hs hd ⊢
    exact ⟨rfl, (hother hc).2 hs hd⟩

theorem Io.streamed_not_reset {io : Io} (h : io.streamed) : io.lastClass ≠ classResetResponse := by
  rcases h with hdata | hack
  · rw [hdata]; decide
  · rw [hack.1]; decide

/-- A streamed response before the others. -/
theorem ReplyLaw.skip {s0 t : Ts} {seen : List Ts} {r : Ts × Except Errno Unit} (hs : t.io.streamed)
    (hd : done t.io = false)
    (hn : (t :: seen).length ≤ featureResponseLimit) (h : ReplyLaw done s0 seen r) :
      ReplyLaw done s0 (t :: seen) r := by
  have hlast : ∀ {v}, seen.getLast? = some v → (t :: seen).getLast? = some v := by
    intro v hv
    rw [List.getLast?_cons, hv]
    rfl
  refine ⟨hn, fun v hv => ?_, fun hok => ⟨hlast (h.success hok).1, (h.success hok).2⟩,
    fun v hv hc => ?_,
    fun v hv hc hno hdv => ?_, fun hno => h.otherwise fun v hv => hno v (List.mem_cons_of_mem _ hv)⟩
  · cases seen with
    | nil => cases hv
    | cons u rest =>
      rcases List.mem_cons.mp hv with rfl | hin
      · exact hs
      · exact h.before v hin
  · rcases List.mem_cons.mp hv with rfl | hin
    · exact absurd hc (Io.streamed_not_reset hs)
    · exact ⟨hlast (h.reset v hin hc).1, (h.reset v hin hc).2⟩
  · rcases List.mem_cons.mp hv with rfl | hin
    · exact absurd hs hno
    · exact ⟨hlast (h.unexpected v hin hc hno hdv).1, (h.unexpected v hin hc hno hdv).2⟩

/-- The law for a wait with room for `n`. -/
theorem Awaited.law {n : Nat} {s0 s : Ts} {seen : List Ts} {r : Ts × Except Errno Unit}
    (hdone : ∀ io : Io, io.lastClass = classResetResponse → done io = false) (hs : Uncounted s0 s)
    (h : Awaited c w done n s seen r) : n ≤ featureResponseLimit → seen.length ≤ n ∧
      ReplyLaw done s0 seen r := by
  induction h with
  | overflow s => exact fun _ => ⟨Nat.le_refl _, .nothing (fun hok => (nomatch hok)) hs⟩
  | failed hnext => exact fun _ => ⟨Nat.zero_le _, .nothing (fun hok => (nomatch hok)) (nextResponse_uncounted hs hnext)⟩
  | @expected n s t hnext hd =>
    refine fun _ => ⟨by simp, .last (fun _ => ⟨rfl, hd⟩) (fun hc => ?_) fun _ =>
      ⟨nextResponse_uncounted hs hnext, fun _ hno => ?_⟩⟩
    · rw [hdone t.io hc] at hd
      cases hd
    · rw [hd] at hno
      cases hno
  | reset hnext hd hc =>
    exact fun _ => ⟨by simp, .last (fun hok => (nomatch hok))
      (fun _ => ⟨rfl, notePanelReset_closes c w (nextResponse_uncounted hs hnext)⟩) fun hno =>
      absurd hc hno⟩
  | unexpected hnext hd hc hno =>
    exact fun _ => ⟨by simp, .last (fun hok => (nomatch hok)) (fun hreset => absurd hreset hc)
      fun _ => ⟨nextResponse_uncounted hs hnext, fun _ _ => rfl⟩⟩
  | skip hnext hd hstream _ ih =>
    intro hn
    obtain ⟨hlen, hlaw⟩ := ih (nextResponse_uncounted hs hnext) (by omega)
    have hlen' := Nat.succ_le_succ hlen
    exact ⟨hlen', hlaw.skip hstream hd (Nat.le_trans hlen' hn)⟩

theorem isResponse_not_reset {responseClass contentId minContentLen : Nat}
    (h : responseClass ≠ classResetResponse) (io : Io)
    (hc : io.lastClass = classResetResponse) :
      io.isResponse responseClass contentId minContentLen = false := by
  unfold Io.isResponse
  rw [hc]
  simp [Ne.symm h]

theorem Exchanged.law {reportType contentId : Nat} {content : Bytes} {s : Ts} {seen : List Ts}
    {r : Ts × Except Errno Unit}
    (hdone : ∀ io : Io, io.lastClass = classResetResponse → done io = false)
    (h : Exchanged c w reportType contentId content done s seen r) : ReplyLaw done s seen r := by
  have hkeeps : ∀ {t ret}, dmaHidspiOutput w reportType contentId content s = (t, .ok ret) →
    Uncounted s t := by
    intro t ret hout
    have hstate := ((uncounted_rule c s).toIoRule.dmaHidspiOutput (w := w) reportType contentId
      content).state ⟨rfl, rfl⟩
    rw [hout] at hstate
    exact hstate
  cases h with
  | invalid h => exact .nothing (fun hok => (nomatch hok)) ⟨rfl, rfl⟩
  | notSent hout => exact .nothing (fun hok => (nomatch hok)) ⟨(hkeeps hout).notifications, (hkeeps hout).pending⟩
  | sent hout hr => exact (hr.law hdone (hkeeps hout) (Nat.le_refl _)).2

/-- Both waits, for every behaviour of the panel. -/
theorem replies_exact (c : Config) (w : World) (s : Ts) :
    (∀ (reportType contentId : Nat) (content : Bytes), ∃ seen,
      Exchanged c w reportType contentId content (exchangeDone reportType contentId) s seen
        (dmaFeatureExchange c w reportType contentId content s) ∧
      ReplyLaw (exchangeDone reportType contentId) s seen
        (dmaFeatureExchange c w reportType contentId content s)) ∧
    (∀ responseClass contentId minContentLen : Nat, responseClass ≠ classResetResponse → ∃ seen,
      Awaited c w (fun io => io.isResponse responseClass contentId minContentLen)
      featureResponseLimit s seen
        (recoveryReadExpected c w responseClass contentId minContentLen s) ∧
      ReplyLaw (fun io => io.isResponse responseClass contentId minContentLen) s seen
        (recoveryReadExpected c w responseClass contentId minContentLen s)) := by
  refine ⟨fun reportType contentId content => ?_,
    fun responseClass contentId minContentLen hclass => ?_⟩
  · obtain ⟨seen, h⟩ := dmaFeatureExchange_exchanged c w reportType contentId content s
    have hclass : (if reportType = typeSetFeature then classSetFeatureResponse
      else classGetFeatureResponse) ≠ classResetResponse := by
      split <;> decide
    exact ⟨seen, h, h.law fun io => isResponse_not_reset hclass io⟩
  · obtain ⟨seen, h⟩ := awaitReply_awaited (c := c) (w := w) featureResponseLimit s
    exact ⟨seen, h, (h.law (fun io => isResponse_not_reset hclass io) ⟨rfl, rfl⟩ (Nat.le_refl _)).2⟩

end Driver
end Sp11Touch
