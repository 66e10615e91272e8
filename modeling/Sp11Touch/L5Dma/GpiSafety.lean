import Sp11Touch.L5Dma.GpiChannel
/-!
# Each descriptor is retired once, as long as the deferred slot is honoured

`qspi_deferred_vd` points at a descriptor that is still on the issued list.
Two paths free the list head without looking at the slot: a TX event that is
neither EOT nor EOB, and the reset of the TX channel when a terminal EOT was
handled after `gpi_qspi_clear_deferred` had run. `Honoured` is the condition
that neither happens.

* `gpii_retires_once`: along every run whose steps are all `Honoured`, each
  descriptor has at most one callback, one `list_del` and one `kfree`, no
  callback comes after its `kfree`, the slot never refers to a freed
  descriptor, and an EOT with another pointer than the last TRE of the oldest
  issued descriptor changes nothing.
* `unhonoured_dangles`: a step that is not `Honoured` frees the descriptor
  the slot refers to.
* `error_event_dangles`: an error event between a deferred EOT and its QUP
  notification, and a reset after a late EOT, leave the slot with a freed
  descriptor.
-/
namespace Sp11Touch.Gpi

/-! ## The ledger of allocations -/

def Done.id : Done → Nat
  | .callback i _ => i
  | .unlink i => i
  | .free i => i

def isCallback (i : Nat) : Done → Bool
  | .callback j _ => j = i
  | _ => false

def isUnlink (i : Nat) : Done → Bool
  | .unlink j => j = i
  | _ => false

def isFree (i : Nat) : Done → Bool
  | .free j => j = i
  | _ => false

/-- No callback is newer than the `kfree` of its descriptor. -/
def NoUseAfterFree : List Done → Prop
  | [] => True
  | .callback i _ :: l => .free i ∉ l ∧ NoUseAfterFree l
  | _ :: l => NoUseAfterFree l

structure LogOk (log : List Done) : Prop where
  callback : ∀ i, log.countP (isCallback i) ≤ 1
  unlink : ∀ i, log.countP (isUnlink i) ≤ 1
  free : ∀ i, log.countP (isFree i) ≤ 1
  useAfterFree : NoUseAfterFree log

/-- The descriptors `ids` are distinct, allocated before `n`, and nothing
was done to them yet. -/
structure Ledger (ids : List Nat) (log : List Done) (n : Nat) : Prop where
  nodup : ids.Nodup
  live : ∀ i ∈ ids, i < n
  old : ∀ a ∈ log, a.id < n
  fresh : ∀ i ∈ ids, ∀ a ∈ log, a.id ≠ i
  ok : LogOk log

namespace Ledger
variable {ids rest : List Nat} {log : List Done} {n i : Nat}

theorem perm (h : Ledger ids log n) (hp : ids.Perm rest) : Ledger rest log n :=
  ⟨hp.nodup_iff.mp h.nodup, fun i hi => h.live i (hp.mem_iff.mpr hi), h.old,
    fun i hi => h.fresh i (hp.mem_iff.mpr hi), h.ok⟩

theorem alloc (h : Ledger ids log n) : Ledger (n :: ids) log (n + 1) := by
  refine ⟨List.nodup_cons.mpr ⟨fun hm => ?_, h.nodup⟩, ?_, fun a ha => ?_, ?_, h.ok⟩
  · have := h.live n hm; omega
  · intro i hi
    rcases List.mem_cons.mp hi with rfl | hi
    · omega
    · have := h.live i hi; omega
  · have := h.old a ha; omega
  · intro i hi a ha
    rcases List.mem_cons.mp hi with rfl | hi
    · have := h.old a ha; omega
    · exact h.fresh i hi a ha

theorem countP_fresh {p : Nat → Done → Bool} (hp : ∀ i a, p i a = true → a.id = i)
    (hf : ∀ a ∈ log, a.id ≠ i) : log.countP (p i) = 0 :=
  List.countP_eq_zero.mpr fun a ha h => hf a ha (hp i a h)

theorem isCallback_id (i : Nat) (a : Done) (h : isCallback i a = true) : a.id = i := by
  cases a <;> simp_all [isCallback, Done.id]

theorem isUnlink_id (i : Nat) (a : Done) (h : isUnlink i a = true) : a.id = i := by
  cases a <;> simp_all [isUnlink, Done.id]

theorem isFree_id (i : Nat) (a : Done) (h : isFree i a = true) : a.id = i := by
  cases a <;> simp_all [isFree, Done.id]

theorem free_fresh (hf : ∀ a ∈ log, a.id ≠ i) : Done.free i ∉ log := fun hm => hf _ hm rfl

/-- Unlinking and freeing one of the live descriptors. -/
theorem drop (h : Ledger (i :: rest) log n) : Ledger rest (.free i :: .unlink i :: log) n := by
  have hf := h.fresh i List.mem_cons_self
  have hu := countP_fresh isUnlink_id hf
  have hfr := countP_fresh isFree_id hf
  obtain ⟨hni, hnd⟩ := List.nodup_cons.mp h.nodup
  refine ⟨hnd, fun j hj => h.live j (List.mem_cons_of_mem _ hj), ?_, ?_,
    ⟨?_, ?_, ?_, h.ok.useAfterFree⟩⟩
  · intro a ha
    have hi := h.live i List.mem_cons_self
    rcases List.mem_cons.mp ha with rfl | ha
    · exact hi
    · rcases List.mem_cons.mp ha with rfl | ha
      · exact hi
      · exact h.old a ha
  · intro j hj a ha
    have hne : i ≠ j := fun he => hni (he ▸ hj)
    rcases List.mem_cons.mp ha with rfl | ha
    · exact hne
    · rcases List.mem_cons.mp ha with rfl | ha
      · exact hne
      · exact h.fresh j (List.mem_cons_of_mem _ hj) a ha
  · intro j
    simpa [isCallback] using h.ok.callback j
  · intro j
    have := h.ok.unlink j
    by_cases hj : i = j
    · subst hj; simp [isUnlink, hu]
    · simpa [isUnlink, hj] using this
  · intro j
    have := h.ok.free j
    by_cases hj : i = j
    · subst hj; simp [isFree, hfr]
    · simpa [isFree, hj] using this

/-- The callback of a live descriptor; it is live no longer. -/
theorem callback (r : Result) (h : Ledger (i :: rest) log n) :
    Ledger rest (.free i :: .unlink i :: .callback i r :: log) n := by
  have hf := h.fresh i List.mem_cons_self
  have hcb := countP_fresh isCallback_id hf
  have hd := h.drop
  refine ⟨hd.nodup, hd.live, ?_, ?_, ⟨?_, ?_, ?_, ⟨free_fresh hf, h.ok.useAfterFree⟩⟩⟩
  · intro a ha
    simp only [List.mem_cons] at ha
    rcases ha with rfl | rfl | rfl | ha
    · exact h.live i List.mem_cons_self
    · exact h.live i List.mem_cons_self
    · exact h.live i List.mem_cons_self
    · exact h.old a ha
  · intro j hj a ha
    simp only [List.mem_cons] at ha
    rcases ha with rfl | rfl | rfl | ha
    · exact hd.fresh j hj (.free i) (by simp)
    · exact hd.fresh j hj (.free i) (by simp)
    · exact hd.fresh j hj (.free i) (by simp)
    · exact h.fresh j (List.mem_cons_of_mem _ hj) a ha
  · intro j
    have := h.ok.callback j
    by_cases hj : i = j
    · subst hj; simp [isCallback, hcb]
    · simpa [isCallback, hj] using this
  · intro j
    have := hd.ok.unlink j
    rwa [List.countP_cons, List.countP_cons] at this ⊢
  · intro j
    have := hd.ok.free j
    rwa [List.countP_cons, List.countP_cons] at this ⊢

theorem dropAll (l : List Nat) (h : Ledger (l ++ rest) log n) :
    Ledger rest ((l.flatMap fun i => [.free i, .unlink i]) ++ log) n := by
  induction l generalizing rest with
  | nil => exact h
  | cons i l ih =>
    have h1 : Ledger (l ++ i :: rest) log n := h.perm (List.perm_middle.symm)
    exact (ih h1).drop

end Ledger

/-! ## The invariant -/

def ids (l : List Desc) : List Nat := l.map (·.id)

def Gpii.liveIds (g : Gpii) : List Nat := ids g.tx.descs ++ ids g.rx.descs

/-- The slot refers to the oldest issued TX descriptor. -/
structure Inv (g : Gpii) : Prop where
  ledger : Ledger g.liveIds g.log g.nextId
  slot : ∀ x, g.deferred = some x → x.gchan = .TX ∧ (ids g.tx.issued).head? = some x.vd.id

theorem ids_setLastDb (l : List Desc) (db : Nat) : ids (setLastDb l db) = ids l := by
  unfold setLastDb
  cases h : l.getLast? with
  | none => rfl
  | some d =>
    obtain ⟨hne, hd⟩ := List.getLast?_eq_some_iff.mp h
    subst hd
    simp [ids]

theorem ids_append (l m : List Desc) : ids (l ++ m) = ids l ++ ids m := List.map_append

theorem ids_descs (c : Gchan) : ids c.descs = ids c.allocated ++ ids
    c.submitted ++ ids c.issued := by
  unfold Gchan.descs; rw [ids_append, ids_append]

theorem liveIds_perm (g : Gpii) (ch : Chid) :
    g.liveIds.Perm (ids (g.chan ch).descs ++ ids (g.chan ch.other).descs) := by
  cases ch with
  | TX => exact List.Perm.refl _
  | RX => exact List.perm_append_comm

theorem liveIds_setChan (g : Gpii) (ch : Chid) (c : Gchan) :
    (g.setChan ch c).liveIds.Perm (ids c.descs ++ ids (g.chan ch.other).descs) := by
  cases ch with
  | TX => exact List.Perm.refl _
  | RX => exact List.perm_append_comm

/-- Replacing one channel by one with the same descriptors in another order. -/
theorem Inv.setChan {g : Gpii} (h : Inv g) (ch : Chid) {c : Gchan}
    (hp : (ids (g.chan ch).descs).Perm (ids c.descs))
    (hhead : ∀ i, (ids (g.chan ch).issued).head? = some i → (ids c.issued).head? = some i) :
    Inv (g.setChan ch c) := by
  have hids := (liveIds_perm g ch).trans ((hp.append_right _).trans (liveIds_setChan g ch c).symm)
  cases ch with
  | TX =>
    refine ⟨h.ledger.perm hids, fun x hx => ?_⟩
    obtain ⟨h1, h2⟩ := h.slot x hx
    exact ⟨h1, hhead _ h2⟩
  | RX => exact ⟨h.ledger.perm hids, h.slot⟩

theorem filter_split (l : List Desc) (i : Nat) :
    (ids l).Perm (ids (l.filter (·.id ≠ i)) ++ ids (l.filter (·.id = i))) := by
  unfold ids
  rw [← List.map_append]
  refine List.Perm.map _ (List.Perm.symm ?_)
  have := List.filter_append_perm (fun d : Desc => decide (d.id ≠ i)) l
  simpa using this

theorem vchanTxPrep_inv {g : Gpii} (h : Inv g) (ch : Chid) (len tre : Nat) :
    Inv (vchanTxPrep g ch len tre) := by
  have hids : (g.nextId :: g.liveIds).Perm (vchanTxPrep g ch len tre).liveIds := by
    refine ((liveIds_perm g ch).cons _).trans (List.Perm.trans ?_ (liveIds_setChan g ch _).symm)
    simp only [ids_descs, ids_append, List.append_assoc]
    exact List.perm_middle.symm
  have hl := h.ledger.alloc.perm hids
  cases ch <;> exact ⟨hl, h.slot⟩

theorem prepSlaveSg_inv {g : Gpii} (h : Inv g) (ch : Chid) (len : Nat) (sc it oom : Bool) :
    Inv (prepSlaveSg g ch len sc it oom) := by
  have h0 : Inv { g with ieobSet := false } := ⟨h.ledger, h.slot⟩
  unfold prepSlaveSg
  dsimp only
  split
  · exact h0
  · exact vchanTxPrep_inv h0 ch len _

theorem txSubmit_inv {g : Gpii} (h : Inv g) (ch : Chid) (id : Nat) : Inv (txSubmit g ch id) := by
  refine h.setChan ch ?_ fun _ hi => hi
  rw [ids_descs, ids_descs, ids_append]
  have := filter_split (g.chan ch).allocated id
  refine ((this.append_right _).append_right _).trans (List.Perm.append_right _ ?_)
  rw [List.append_assoc]
  exact List.Perm.append_left _ List.perm_append_comm

theorem issuePending_inv {g : Gpii} (h : Inv g) (ch : Chid) : Inv (issuePending g ch) := by
  unfold issuePending
  dsimp only
  split
  · exact h
  · refine h.setChan ch ?_ fun i hi => ?_
    · rw [ids_descs, ids_descs, ids_setLastDb, ids_append, List.append_assoc]
      simp only [ids, List.map_nil, List.nil_append, List.append_assoc]
      exact List.Perm.append_left _ List.perm_append_comm
    · rw [ids_setLastDb, ids_append]
      rw [List.head?_append, hi]; rfl

/-! ## Events -/

theorem head_cons {l : List Desc} {i : Nat} (h : (ids l).head? = some i) :
    ∃ v rest, l = v :: rest ∧ v.id = i := by
  cases l with
  | nil => cases h
  | cons v rest => exact ⟨v, rest, rfl, by simpa [ids] using h⟩

/-- The ids are distinct, so unlinking the head by its id takes nothing else. -/
theorem filter_head {v : Desc} {rest : List Desc} (h : (ids (v :: rest)).Nodup) :
    (v :: rest).filter (·.id ≠ v.id) = rest := by
  have hni := (List.nodup_cons.mp h).1
  rw [List.filter_cons_of_neg (by simp), List.filter_eq_self]
  intro d hd
  simp only [decide_eq_true_eq]
  intro he
  exact hni (List.mem_map.mpr ⟨d, hd, he⟩)

/-- Retiring the oldest issued descriptor of a channel. -/
theorem retire_ledger {g : Gpii} (h : Inv g) (ch : Chid) (vd : Desc) (r : Result)
    (hhead : (ids (g.chan ch).issued).head? = some vd.id) :
    Ledger (retire g ch vd r).liveIds (retire g ch vd r).log (retire g ch vd r).nextId := by
  obtain ⟨v, rest, hv, hid⟩ := head_cons hhead
  have hl := h.ledger.perm (liveIds_perm g ch)
  rw [ids_descs, hv] at hl
  have hnd : (ids (v :: rest)).Nodup := hl.nodup.sublist
    ((List.sublist_append_right _ _).trans (List.sublist_append_left _ _))
  have hrest : (g.chan ch).issued.filter (·.id ≠ vd.id) = rest := by rw [hv, ← hid, filter_head hnd]
  have hids : (retire g ch vd r).liveIds.Perm
      (ids (g.chan ch).allocated ++ ids (g.chan ch).submitted ++ ids rest ++ ids
      (g.chan ch.other).descs) := by
    refine (liveIds_setChan g ch _).trans ?_
    rw [ids_descs, hrest]
  have hmid : (ids (g.chan ch).allocated ++ ids (g.chan ch).submitted ++ ids (v :: rest) ++
      ids (g.chan ch.other).descs).Perm (vd.id :: (ids (g.chan ch).allocated ++
        ids (g.chan ch).submitted ++ ids rest ++ ids (g.chan ch.other).descs)) := by
    rw [show ids (v :: rest) = vd.id :: ids rest by simp [ids, hid]]
    exact List.perm_middle.append_right _
  have hl := (hl.perm hmid).callback r
  have hres : (retire g ch vd r).nextId = g.nextId ∧
      (retire g ch vd r).log = .free vd.id :: .unlink vd.id :: .callback vd.id r :: g.log := by
    cases ch <;> exact ⟨rfl, rfl⟩
  rw [hres.1, hres.2]
  exact hl.perm hids.symm

theorem retire_inv {g : Gpii} (h : Inv g) (ch : Chid) (vd : Desc) (r : Result)
    (hhead : (ids (g.chan ch).issued).head? = some vd.id) (hslot : ch = .RX ∨ g.deferred = none) :
    Inv (retire g ch vd r) := by
  refine ⟨retire_ledger h ch vd r hhead, ?_⟩
  rcases hslot with rfl | hnone
  · exact h.slot
  · have : (retire g ch vd r).deferred = none := by cases ch <;> exact hnone
    rw [this]; exact nofun

theorem qspiCompleteDeferred_inv {g : Gpii} (h : Inv g) : Inv (qspiCompleteDeferred g) := by
  unfold qspiCompleteDeferred
  cases hd : g.deferred with
  | none => exact h
  | some x =>
    obtain ⟨h1, h2⟩ := h.slot x hd
    have h0 : Inv { g with deferred := none, graceElapsed := false, timerArmed := false } :=
      ⟨h.ledger, nofun⟩
    exact retire_inv h0 x.gchan x.vd x.result (by rw [h1]; exact h2) (Or.inr rfl)

theorem resetChan_inv {g : Gpii} (h : Inv g) (ch : Chid) (hslot : ch = .RX ∨ g.deferred = none) :
    Inv (resetChan g ch) := by
  have hl := Ledger.dropAll (ids (g.chan ch).descs) (h.ledger.perm (liveIds_perm g ch))
  have hlog : (resetChan g ch).log = ((ids (g.chan ch).descs).flatMap fun i =>
    [.free i, .unlink i]) ++ g.log := by
    unfold resetChan ids
    rw [List.flatMap_map]
  have hids : (resetChan g ch).liveIds.Perm (ids (g.chan ch.other).descs) := liveIds_setChan g ch _
  have hnext : (resetChan g ch).nextId = g.nextId := by cases ch <;> rfl
  refine ⟨?_, ?_⟩
  · rw [hlog, hnext]
    exact hl.perm hids.symm
  · rcases hslot with rfl | hnone
    · exact h.slot
    · have : (resetChan g ch).deferred = none := by cases ch <;> exact hnone
      rw [this]; exact nofun

theorem Inv.withCtrl {g : Gpii} (h : Inv g) (p : CtrlPc) : Inv { g with ctrl := p } :=
  ⟨h.ledger, h.slot⟩

theorem setPm_inv {g : Gpii} (h : Inv g) (ch : Chid) (p : PmState) : Inv (setPm g ch p) :=
  h.setChan ch (List.Perm.refl _) fun _ hi => hi

/-! ## The condition -/

/-- No TX event other than EOT and EOB while the slot is taken, and no reset
of the TX channel while it is. -/
def Honoured (g : Gpii) : Act → Prop
  | .event .TX ev => ev.code = .EOT ∨ ev.code = .EOB ∨ g.tx.pmState ≠ .ACTIVE ∨ g.deferred = none
  | .terminate ok => g.ctrl = .rxStopped → ok = true → g.deferred = none
  | _ => True

instance (g : Gpii) (a : Act) : Decidable (Honoured g a) :=
  match a with
  | .event .TX ev =>
    inferInstanceAs (Decidable (ev.code = .EOT ∨ ev.code = .EOB ∨ g.tx.pmState ≠ .ACTIVE ∨
      g.deferred = none))
  | .event .RX _ => .isTrue trivial
  | .terminate ok => inferInstanceAs (Decidable (g.ctrl = .rxStopped → ok = true → g.deferred = none))
  | .prep .. => .isTrue trivial
  | .submit .. => .isTrue trivial
  | .issue .. => .isTrue trivial
  | .qupNotif => .isTrue trivial
  | .timer => .isTrue trivial
  | .taskletEnd => .isTrue trivial

theorem setRp_inv {g : Gpii} (h : Inv g) (ch : Chid) (ptr : Nat) : Inv (setRp g ch ptr) :=
  h.setChan ch (List.Perm.refl _) fun _ hi => hi

theorem deferTx_inv {g : Gpii} (h : Inv g) (vd : Desc) (r : Result)
    (hhead : (ids g.tx.issued).head? = some vd.id) : Inv (deferTx g vd r) := by
  unfold deferTx
  split
  · exact h
  · refine ⟨h.ledger, fun x hx => ?_⟩
    cases hx
    exact ⟨rfl, hhead⟩

theorem completeXfer_inv {g : Gpii} (h : Inv g) (ch : Chid) (vd : Desc) (ev : XferComplEvent)
    (hhead : (ids (g.chan ch).issued).head? = some vd.id)
    (hc : ch = .RX ∨ ev.code = .EOT ∨ ev.code = .EOB ∨ g.deferred = none) :
    Inv (completeXfer g ch vd ev) := by
  unfold completeXfer
  split
  · exact ⟨h.ledger, h.slot⟩
  rename_i heob
  by_cases heot : ev.code = .EOT
  · have h1 : Inv { g with ieobSet := false } := ⟨h.ledger, h.slot⟩
    simp only [heot, if_true, and_true]
    cases ch with
    | TX => exact deferTx_inv h1 vd _ hhead
    | RX => exact retire_inv h1 .RX vd _ hhead (Or.inl rfl)
  · simp only [heot, if_false, and_false]
    refine retire_inv h ch vd _ hhead ?_
    rcases hc with hc | hc | hc | hc
    · exact Or.inl hc
    · exact absurd hc heot
    · exact absurd hc heob
    · exact Or.inr hc

theorem processXferComplEvent_inv {g : Gpii} (h : Inv g) (ch : Chid) (ev : XferComplEvent)
    (hc : Honoured g (.event ch ev)) : Inv (processXferComplEvent g ch ev) := by
  unfold processXferComplEvent
  split
  · exact h
  rename_i hact
  split
  · exact h
  rename_i vd rest hi
  split
  · exact h
  refine completeXfer_inv (setRp_inv h ch ev.ptr) ch vd ev ?_ ?_
  · have hsame : ((setRp g ch ev.ptr).chan ch).issued = (g.chan ch).issued := by cases ch <;> rfl
    rw [hsame, hi]; rfl
  · have hsame : (setRp g ch ev.ptr).deferred = g.deferred := by cases ch <;> rfl
    rw [hsame]
    cases ch with
    | RX => exact Or.inl rfl
    | TX =>
      rcases hc with hc | hc | hc | hc
      · exact Or.inr (Or.inl hc)
      · exact Or.inr (Or.inr (Or.inl hc))
      · exact absurd hc hact
      · exact Or.inr (Or.inr (Or.inr hc))

theorem terminateStep_inv {g : Gpii} (h : Inv g) (ok : Bool) (hc : Honoured g (.terminate ok)) :
    Inv (terminateStep g ok) := by
  unfold terminateStep
  cases hp : g.ctrl with
  | idle =>
    dsimp only
    unfold qspiClearDeferred
    split
    · exact h.withCtrl _
    · exact ⟨h.ledger, nofun⟩
  | cleared => exact (setPm_inv h .TX _).withCtrl _
  | txStopped => exact (setPm_inv h .RX _).withCtrl _
  | rxStopped =>
    cases ok with
    | false => exact h.withCtrl _
    | true => exact (resetChan_inv h .TX (Or.inr (hc hp rfl))).withCtrl _
  | txReset =>
    cases ok with
    | false => exact h.withCtrl _
    | true => exact (resetChan_inv h .RX (Or.inl rfl)).withCtrl _
  | rxReset =>
    cases ok with
    | false => exact h.withCtrl _
    | true => exact (setPm_inv h .TX _).withCtrl _
  | txStarted =>
    cases ok with
    | false => exact h.withCtrl _
    | true => exact (setPm_inv h .RX _).withCtrl _

theorem step_inv {g t : Gpii} {a : Act} (h : Inv g) (hs : step g a = some t) (hc : Honoured g a) :
    Inv t := by
  cases a with
  | prep ch len sc it oom => cases hs; exact prepSlaveSg_inv h ch len sc it oom
  | submit ch id => cases hs; exact txSubmit_inv h ch id
  | issue ch => cases hs; exact issuePending_inv h ch
  | event ch ev => cases hs; exact processXferComplEvent_inv h ch ev hc
  | qupNotif =>
    cases hs
    unfold processQupNotif
    split
    · exact qspiCompleteDeferred_inv h
    · exact h
  | timer =>
    simp only [step] at hs
    split at hs
    · cases hs
      unfold qspiDeferredTimer
      split
      · exact ⟨h.ledger, h.slot⟩
      · exact ⟨h.ledger, h.slot⟩
    · cases hs
  | taskletEnd =>
    cases hs
    unfold evTaskletEnd
    split
    · exact qspiCompleteDeferred_inv h
    · exact h
  | terminate ok => cases hs; exact terminateStep_inv h ok hc

theorem fresh_inv (len elSize : Nat) : Inv (fresh len elSize) :=
  ⟨⟨List.nodup_nil, nofun, nofun, nofun, ⟨fun _ => Nat.zero_le _, fun _ => Nat.zero_le _,
    fun _ => Nat.zero_le _, trivial⟩⟩, nofun⟩

theorem honoured_inductive : (gpii.restrict Honoured).Inductive Inv := by
  constructor
  · intro g hinit
    obtain ⟨len, elSize, rfl⟩ := hinit
    exact fresh_inv len elSize
  · exact fun g a t hi hs => step_inv hi hs.1 hs.2

/-! ## The property -/

/-- Each descriptor is called back, unlinked and freed once at most and never
called back after its `kfree`, and the slot refers to no freed descriptor. -/
structure RetiresOnce (g : Gpii) : Prop where
  log : LogOk g.log
  slot : ∀ x, g.deferred = some x → .free x.vd.id ∉ g.log

theorem Inv.retiresOnce {g : Gpii} (h : Inv g) : RetiresOnce g := by
  refine ⟨h.ledger.ok, fun x hx hm => ?_⟩
  obtain ⟨_, hhead⟩ := h.slot x hx
  have hmem : x.vd.id ∈ g.liveIds := by
    unfold Gpii.liveIds
    rw [ids_descs]
    exact List.mem_append_left _ (List.mem_append_right _ (List.mem_of_mem_head? hhead))
  exact h.ledger.fresh _ hmem _ hm rfl

/-- An EOT that does not point at the last TRE of the oldest issued
descriptor changes nothing. -/
theorem nonterminal_eot {g : Gpii} {ch : Chid} {ev : XferComplEvent} (heot : ev.code = .EOT)
    (hptr : ∀ vd rest, (g.chan ch).issued = vd :: rest →
    (g.chan ch).chRing.lastTre vd.db ≠ some ev.ptr) :
    processXferComplEvent g ch ev = g := by
  unfold processXferComplEvent
  split
  · rfl
  · split
    · rfl
    · rename_i vd rest hi
      exact if_pos ⟨heot, hptr vd rest hi⟩

/-- Freeing the descriptor of a taken slot leaves the slot behind. -/
theorem unhonoured_dangles {g t : Gpii} {a : Act} (h : Inv g) (hs : step g a = some t)
    (hc : ¬ Honoured g a) : ∃ x, t.deferred = some x ∧ .free x.vd.id ∈ t.log := by
  cases a with
  | event ch ev =>
    cases ch with
    | RX => exact absurd trivial hc
    | TX =>
      simp only [Honoured, not_or, Classical.not_not] at hc
      obtain ⟨heot, heob, hact, hd⟩ := hc
      obtain ⟨x, hx⟩ := Option.ne_none_iff_exists'.mp hd
      obtain ⟨_, hhead⟩ := h.slot x hx
      obtain ⟨v, rest, hv, hid⟩ := head_cons hhead
      have ht : t = retire (setRp g .TX ev.ptr) .TX v (xferResult v ev) := by
        simp only [step, Option.some.injEq] at hs
        rw [← hs]
        unfold processXferComplEvent
        simp only [Gpii.chan, hact, hv, heot, completeXfer, heob]
        simp
      rw [ht]
      exact ⟨x, hx, by rw [← hid]; exact List.mem_cons_self⟩
  | terminate ok =>
    simp only [Honoured, Classical.not_imp] at hc
    obtain ⟨hp, rfl, hd⟩ := hc
    obtain ⟨x, hx⟩ := Option.ne_none_iff_exists'.mp hd
    obtain ⟨_, hhead⟩ := h.slot x hx
    obtain ⟨v, rest, hv, hid⟩ := head_cons hhead
    have ht : t = { resetChan g .TX with ctrl := .txReset } := by
      simp only [step, Option.some.injEq] at hs
      rw [← hs]
      unfold terminateStep
      rw [hp]; rfl
    rw [ht]
    refine ⟨x, hx, List.mem_append_left _ (List.mem_flatMap.mpr ⟨v, ?_, ?_⟩)⟩
    · show v ∈ g.tx.descs
      unfold Gchan.descs
      rw [hv]
      exact List.mem_append_right _ List.mem_cons_self
    · rw [hid]; exact List.mem_cons_self
  | prep => exact absurd trivial hc
  | submit => exact absurd trivial hc
  | issue => exact absurd trivial hc
  | qupNotif => exact absurd trivial hc
  | timer => exact absurd trivial hc
  | taskletEnd => exact absurd trivial hc

/-- Along every run whose steps are all `Honoured` the property holds, a
further step keeps it iff that step is `Honoured` too, and a non-terminal EOT
completes nothing. -/
theorem gpii_retires_once {g0 g : Gpii} {acts : List Act} (h0 : gpii.init g0)
    (hr : gpii.RunMeets Honoured g0 acts g) : RetiresOnce g ∧
    (∀ a t, step g a = some t → (RetiresOnce t ↔ Honoured g a)) ∧
    ∀ ch ev, ev.code = .EOT →
      (∀ vd rest, (g.chan ch).issued = vd :: rest →
      (g.chan ch).chRing.lastTre vd.db ≠ some ev.ptr) →
      step g (.event ch ev) = some g := by
  have hi : Inv g := honoured_inductive.run (LTS.run_restrict hr) (honoured_inductive.init g0 h0)
  refine ⟨hi.retiresOnce, fun a t hs => ⟨fun hok => ?_, fun hc => (step_inv hi hs hc).retiresOnce⟩,
    fun _ _ heot hptr => congrArg some (nonterminal_eot heot hptr)⟩
  refine Decidable.byContradiction fun hc => ?_
  obtain ⟨x, hx, hm⟩ := unhonoured_dangles hi hs hc
  exact hok.slot x hx hm

/-! ## Runs -/

/-- One TX descriptor of three TREs on a ring of 64, its EOT, and the QUP
notification that retires it. -/
def txRun : List Act :=
  [.prep .TX 8 true true false, .submit .TX 0, .issue .TX, .event .TX ⟨32, .EOT, 8⟩, .qupNotif]

theorem gpii_retires_once_txRun :
    ∃ g, RetiresOnce g ∧ g.log = [.free 0, .unlink 0, .callback 0 ⟨false, 0⟩] :=
  ⟨_, (gpii_retires_once ⟨1024, 16, rfl⟩
    (show gpii.RunMeets Honoured _ txRun _ from LTS.runMeets_of_exec rfl)).1, rfl⟩

/-- The same with an error event in place of the notification. -/
def errorRun : List Act :=
  [.prep .TX 8 true true false, .submit .TX 0, .issue .TX, .event .TX ⟨32, .EOT, 8⟩,
    .event .TX ⟨32, .UNEXP_ERR, 0⟩]

/-- A terminal EOT between clearing the slot and stopping the TX channel;
the reset frees its descriptor. -/
def resetRun : List Act :=
  [.prep .TX 8 true true false, .submit .TX 0, .issue .TX, .terminate true,
    .event .TX ⟨32, .EOT, 8⟩,
    .terminate true, .terminate true, .terminate true]

/-- Both defects on fixed runs: after the error event, and after the reset,
the slot refers to a descriptor that was freed. A QUP notification would now
complete that descriptor a second time, where `dma_cookie_complete` has a
`BUG_ON` for its cookie. -/
theorem error_event_dangles :
    (∃ g, gpii.Run (fresh 1024 16) errorRun g ∧ .free 0 ∈ g.log ∧ ¬ RetiresOnce g) ∧
    ∃ g, gpii.Run (fresh 1024 16) resetRun g ∧ .free 0 ∈ g.log ∧ ¬ RetiresOnce g := by
  have h1 : gpii.RunMeets (fun _ _ => True) (fresh 1024 16) errorRun _ := LTS.runMeets_of_exec rfl
  have h2 : gpii.RunMeets (fun _ _ => True) (fresh 1024 16) resetRun _ := LTS.runMeets_of_exec rfl
  refine ⟨⟨_, h1.run, by decide, fun h => ?_⟩, ⟨_, h2.run, by decide, fun h => ?_⟩⟩
  · exact h.slot _ rfl (by decide)
  · exact h.slot _ rfl (by decide)

end Sp11Touch.Gpi
