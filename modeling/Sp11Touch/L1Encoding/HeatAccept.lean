import Mathlib.Data.List.GetD
import Sp11Touch.L1Encoding.HeatGrammar
/-!
# What `g6ts_extract_heatmap` accepts

* `extractHeatmap_spec`: for every byte string and every prior state the
  parser stays inside the string, and it returns 0 iff the string follows
  the grammar and `2 + container_len` fits in 32 bits; then the buffers hold
  exactly the report's cells and its noise record.
* `wrapped_container_rejected`: the 32-bit condition is needed, since a
  report of 2^32 bytes follows the grammar and is refused.
-/
namespace Sp11Touch
namespace HeatFrame
open Proc Bytes

/-! ## One section -/

theorem extractNsrMetadata_ok {c : Bytes} {o : Nat} {s t : HeatBuf} {u : Unit}
    (h8 : 8 ≤ sectionLen c o) (hin : o + sectionLen c o ≤ c.length) :
    extractNsrMetadata (c.drop o) (sectionLen c o) s = (t, .ok u) ↔
      Tiles (recordLen (c.drop o)) 4 7 (records c o) (sectionLen c o) ∧
        (steps (RecordStep (c.drop o))).Run ((), s) (records c o) ((), t) := by
  have hlen : sectionLen c o ≤ (c.drop o).length := by rw [List.length_drop]; omega
  exact walk_items (by decide) (fun p a s n b t _ hlt => nsrRecord_ok hlt hlen) 7 () s
    (Nat.le_refl _) (by omega) u t

theorem heatBlocks_ok {c : Bytes} {o : Nat} {s t : HeatBuf} {u : Unit}
    (h8 : 8 ≤ sectionLen c o) (hin : o + sectionLen c o ≤ c.length) :
    heatBlocks c o (o + sectionLen c o) s = (t, .ok u) ↔
      Tiles (blockLen c) 8 (o + 8) (blocks c o) (o + sectionLen c o) ∧
        (steps (BlockStep c)).Run (0, { s with heatmap := fun _ => 0, heatSeen := fun _ => 0 })
          (blocks c o) (heatSamples, t) := by
  have hwalk : ∀ (s : HeatBuf) (w : Nat) (t : HeatBuf),
      walk (o + sectionLen c o) (heatBlock c (o + sectionLen c o)) (o + 8) 0 s = (t, .ok w) ↔
        Tiles (blockLen c) 8 (o + 8) (blocks c o) (o + sectionLen c o) ∧
          (steps (BlockStep c)).Run (0, s) (blocks c o) (w, t) := fun s w t =>
    walk_items (by decide) (fun p a s n b t _ hlt => heatBlock_ok hlt hin)
      (o + 8) 0 s (Nat.le_refl _)
      (by omega) w t
  simp only [heatBlocks, bind_eq_ok, modify_eq_ok, fail_eq_ok, decide_eq_false_iff_not, not_not]
  constructor
  · intro hok
    obtain ⟨_, _, rfl, _, w, h, rfl, rfl⟩ := hok
    exact (hwalk _ _ _).mp h
  · intro h
    exact ⟨_, (), rfl, t, heatSamples, (hwalk _ _ _).mpr h, rfl, rfl⟩

section
variable {c : Bytes} {o : Nat} {f f' : Bool} {s t : HeatBuf} {n : {n : Nat // o < n}}
  (next : {n : Nat // o < n})

theorem returnNext_ok : (pure (next, f) : HeatProc ({n : Nat // o < n} × Bool)) s =
    (t, .ok (n, f')) ↔
    n = next ∧ (f', t) = (f, s) := by
  rw [pure_eq_ok, Prod.mk.injEq, Prod.mk.injEq]
  constructor
  · intro h
    exact ⟨h.2.1, h.2.2, h.1⟩
  · intro h
    exact ⟨h.2.2, h.1, h.2.1⟩

theorem heatBranch_ok (h8 : 8 ≤ sectionLen c o) (hin : o + sectionLen c o ≤ c.length) :
    (do
      let mode ← byteAt c (o + 6)
      let width ← byteAt c (o + 7)
      fail (f || mode ≠ 1 || width ≠ 8) .EPROTO
      heatBlocks c o (o + sectionLen c o)
      return (next, true) : HeatProc ({n : Nat // o < n} × Bool)) s = (t, .ok (n, f')) ↔
      n = next ∧ f = false ∧ f' = true ∧ u8 c (o + 6) = 1 ∧ u8 c (o + 7) = 8 ∧
        Tiles (blockLen c) 8 (o + 8) (blocks c o) (o + sectionLen c o) ∧
        (steps (BlockStep c)).Run (0, { s with heatmap := fun _ => 0, heatSeen := fun _ => 0 })
          (blocks c o) (heatSamples, t) := by
  simp only [bind_eq_ok, byteAt_eq_ok, fail_eq_ok, Bool.or_eq_false_iff,
    decide_eq_false_iff_not, not_not]
  constructor
  · intro hok
    obtain ⟨_, _, ⟨_, rfl, rfl⟩, _, _, ⟨_, rfl, rfl⟩, _, _, ⟨⟨⟨h3, h4⟩, h5⟩, rfl⟩, _, u, h6, h7⟩ :=
      hok
    obtain ⟨hn, he⟩ := (returnNext_ok next).mp h7
    obtain ⟨rfl, rfl⟩ := Prod.mk.inj he
    exact ⟨hn, h3, rfl, h4, h5, (heatBlocks_ok h8 hin).mp h6⟩
  · intro h
    obtain ⟨hn, h3, rfl, h4, h5, h6⟩ := h
    exact ⟨s, _, ⟨by omega, rfl, rfl⟩, s, _, ⟨by omega, rfl, rfl⟩, s, (), ⟨⟨⟨h3, h4⟩, h5⟩, rfl⟩, t,
      (),
      (heatBlocks_ok h8 hin).mpr h6, (returnNext_ok next).mpr ⟨hn, rfl⟩⟩

/-- What follows the length and the type of a section. -/
theorem sectionBody_ok (h8 : 8 ≤ sectionLen c o) (hin : o + sectionLen c o ≤ c.length) :
    (if sectionType c o = metadataSection then do
        extractNsrMetadata (c.drop o) (sectionLen c o)
        return (next, f)
      else if sectionType c o ≠ heatSection then return (next, f)
      else do
        let mode ← byteAt c (o + 6)
        let width ← byteAt c (o + 7)
        fail (f || mode ≠ 1 || width ≠ 8) .EPROTO
        heatBlocks c o (o + sectionLen c o)
        return (next, true) : HeatProc ({n : Nat // o < n} × Bool)) s = (t, .ok (n, f')) ↔
      n = next ∧ SectionStep c o (f, s) (f', t) := by
  unfold SectionStep
  by_cases hm : sectionType c o = metadataSection
  · rw [if_pos hm, if_pos hm, bind_eq_ok]
    constructor
    · intro h
      obtain ⟨m, u, hread, hret⟩ := h
      obtain ⟨hn, he⟩ := (returnNext_ok next).mp hret
      obtain ⟨rfl, rfl⟩ := Prod.mk.inj he
      exact ⟨hn, rfl, (extractNsrMetadata_ok h8 hin).mp hread⟩
    · intro h
      obtain ⟨hn, rfl, hread⟩ := h
      exact ⟨t, (), (extractNsrMetadata_ok h8 hin).mpr hread, (returnNext_ok next).mpr ⟨hn, rfl⟩⟩
  · rw [if_neg hm, if_neg hm]
    by_cases hh : sectionType c o ≠ heatSection
    · rw [if_pos hh, if_pos hh]
      exact returnNext_ok next
    · rw [if_neg hh, if_neg hh]
      exact heatBranch_ok next h8 hin

end

theorem containerSection_ok {c : Bytes} {stop o : Nat} {f f' : Bool} {s t : HeatBuf}
    {n : {n : Nat // o < n}} (hlt : o < stop) (hstop : stop ≤ c.length) :
    containerSection c stop o f s = (t, .ok (n, f')) ↔
      8 ≤ sectionLen c o ∧ o + sectionLen c o ≤ stop ∧ n.1 = o + sectionLen c o ∧
        SectionStep c o (f, s) (f', t) := by
  simp only [containerSection, bind_eq_ok, fail_eq_ok, le32At_eq_ok, le16At_eq_ok,
    decide_eq_false_iff_not]
  constructor
  · intro hok
    obtain ⟨_, _, ⟨h1, rfl⟩, _, _, ⟨_, rfl, rfl⟩, _, fits, hreq, _, _, ⟨h2, rfl, rfl⟩, h⟩ := hok
    have hf : 8 ≤ sectionLen c o ∧ sectionLen c o ≤ stop - o := fits.down
    have hs := require_eq_ok.mp hreq
    subst hs
    obtain ⟨hn, hstep⟩ := (sectionBody_ok _ hf.1 (by omega)).mp h
    exact ⟨hf.1, by omega, congrArg Subtype.val hn, hstep⟩
  · intro hstep
    obtain ⟨h8, h1, hn, h⟩ := hstep
    have hfit : 8 ≤ u32 c o ∧ u32 c o ≤ stop - o := ⟨h8, by unfold sectionLen at h1; omega⟩
    exact ⟨s, (), ⟨by omega, rfl⟩, s, _, ⟨by omega, rfl, rfl⟩, s, ⟨hfit⟩,
      require_eq_ok.mpr rfl, s, _,
      ⟨by omega, rfl, rfl⟩, (sectionBody_ok _ h8 (by omega)).mpr ⟨Subtype.ext hn, h⟩⟩

/-! ## All sections -/

theorem metadata_ne_heat {c : Bytes} {o : Nat} (h : sectionType c o = metadataSection) :
    sectionType c o ≠ heatSection := by
  rw [h]; decide

theorem sections_run {c : Bytes} {l : List Nat} {x y : Bool × HeatBuf}
    (h : (steps (SectionStep c)).Run x l y) :
    (∀ o ∈ l, sectionType c o = metadataSection →
      Tiles (recordLen (c.drop o)) 4 7 (records c o) (sectionLen c o)) ∧
    NsrRead c (nsrIn c l) x.2 y.2 ∧ HeatRead c (heatIn c l) (x.1, x.2.heatmap)
      (y.1, y.2.heatmap) := by
  induction h with
  | nil x => exact ⟨nofun, ⟨rfl, rfl, rfl⟩, rfl⟩
  | @cons x m y o l hst _ ih =>
    obtain ⟨ih1, ih2, ih3⟩ := ih
    have hst : SectionStep c o x m := hst
    unfold SectionStep at hst
    rw [nsrIn_cons]
    by_cases hm : sectionType c o = metadataSection
    · rw [if_pos hm] at hst
      obtain ⟨h1, h2, h3⟩ := hst
      obtain ⟨h4, h5⟩ := records_run h3
      have hof : nsrOf c o = ((records c o).map (o + ·)).filter (fun p => u8 c p = 4) := if_pos hm
      rw [hof, heatIn_cons_other (metadata_ne_heat hm)]
      refine ⟨?_, h4.append ih2, ?_⟩
      · intro q hq hqm
        rcases List.mem_cons.mp hq with rfl | hq
        · exact h2
        · exact ih1 q hq hqm
      · rw [h1, show m.2.heatmap = x.2.heatmap from h5] at ih3
        exact ih3
    · rw [if_neg hm] at hst
      have hof : nsrOf c o = [] := if_neg hm
      have htiles : ∀ q ∈ o :: l, sectionType c q = metadataSection →
          Tiles (recordLen (c.drop q)) 4 7 (records c q) (sectionLen c q) := by
        intro q hq hqm
        rcases List.mem_cons.mp hq with rfl | hq
        · exact absurd hqm hm
        · exact ih1 q hq hqm
      rw [hof]
      by_cases hh : sectionType c o ≠ heatSection
      · rw [if_pos hh] at hst
        subst hst
        rw [heatIn_cons_other hh]
        exact ⟨htiles, ih2, ih3⟩
      · rw [if_neg hh] at hst
        obtain ⟨h1, h2, h3, h4, h5, h6⟩ := hst
        obtain ⟨hgrid, hcells, hsame⟩ := blocks_grid (fun _ => rfl) h6
        rw [heatIn_cons_heat (not_not.mp hh)]
        rw [h2] at ih3
        exact ⟨htiles, ih2.same hsame, h1, ⟨h3, h4, h5, hgrid⟩, _, hcells, ih3⟩

theorem sections_run_exists {c : Bytes} (l : List Nat) (x : Bool × HeatBuf)
    (hmeta : ∀ o ∈ l, sectionType c o = metadataSection →
      Tiles (recordLen (c.drop o)) 4 7 (records c o) (sectionLen c o))
    (hone : (nsrIn c l).length ≤ 1) (hwf : ∀ p ∈ nsrIn c l, NsrRecord c p)
    (hnew : nsrIn c l ≠ [] → x.2.nsrValid = false) (hheat1 : (heatIn c l).length ≤ 1)
    (hheat : ∀ o ∈ heatIn c l, HeatSection c o) (hfound : heatIn c l ≠ [] → x.1 = false) :
    ∃ y, (steps (SectionStep c)).Run x l y := by
  induction l generalizing x with
  | nil => exact ⟨x, .nil x⟩
  | cons o l ih =>
    rw [nsrIn_cons] at hone hwf hnew
    have ih := fun y => ih y (fun q hq => hmeta q (List.mem_cons_of_mem _ hq))
      (by rw [List.length_append] at hone; omega) (fun p hp => hwf p (List.mem_append_right _ hp))
    by_cases hm : sectionType c o = metadataSection
    · have hof : nsrOf c o = ((records c o).map (o + ·)).filter (fun p => u8 c p = 4) := if_pos hm
      rw [hof] at hone hwf hnew
      rw [heatIn_cons_other (metadata_ne_heat hm)] at hheat1 hheat hfound
      obtain ⟨⟨_, t⟩, ht⟩ := records_run_exists (c := c) (o := o) (records c o) ((), x.2)
        (by rw [List.length_append] at hone; omega) (fun p hp => hwf p (List.mem_append_left _ hp))
        (fun hne => hnew (by simp [hne]))
      have hread := (records_run ht).1
      obtain ⟨y, hy⟩ := ih (x.1, t) (fun hne => by
        -- a record further on leaves none here, so `nsr_valid` is still clear
        have hnil : ((records c o).map (o + ·)).filter (fun p => u8 c p = 4) = [] := by
          rw [List.length_append] at hone
          have := List.length_pos_iff.mpr hne
          exact List.eq_nil_of_length_eq_zero (by omega)
        rw [hnil] at hread
        exact hread.1.trans (hnew (by simp [hne]))) hheat1 hheat hfound
      refine ⟨y, .cons ?_ hy⟩
      show SectionStep _ _ _ _
      unfold SectionStep
      rw [if_pos hm]
      exact ⟨rfl, hmeta o List.mem_cons_self hm, ht⟩
    · have hnew : nsrIn c l ≠ [] → x.2.nsrValid = false := fun hne => hnew (by simp [hne])
      by_cases hh : sectionType c o ≠ heatSection
      · rw [heatIn_cons_other hh] at hheat1 hheat hfound
        obtain ⟨y, hy⟩ := ih x hnew hheat1 hheat hfound
        refine ⟨y, .cons ?_ hy⟩
        show SectionStep _ _ _ _
        unfold SectionStep
        rw [if_neg hm, if_pos hh]
      · rw [heatIn_cons_heat (not_not.mp hh)] at hheat1 hheat hfound
        have hnil : heatIn c l = [] :=
          List.eq_nil_of_length_eq_zero (Nat.le_zero.mp (Nat.le_of_succ_le_succ hheat1))
        have hsec := hheat o List.mem_cons_self
        obtain ⟨t, ht⟩ := blocks_grid_exists hsec
          { x.2 with heatmap := fun _ => 0, heatSeen := fun _ => 0 } fun _ => rfl
        have hsame := (blocks_grid (fun _ => rfl) ht).2.2
        obtain ⟨y, hy⟩ := ih (true, t) (fun hne => hsame.1.trans (hnew hne))
          (by rw [hnil]; exact Nat.zero_le _) (by rw [hnil]; exact nofun)
          (fun hne => absurd hnil hne)
        refine ⟨y, .cons ?_ hy⟩
        show SectionStep _ _ _ _
        unfold SectionStep
        rw [if_neg hm, if_neg hh]
        exact ⟨hfound (by simp), rfl, hsec.mode, hsec.width, hsec.tiles, ht⟩

/-! ## The whole report -/

theorem containerSection_safe {c : Bytes} {stop o : Nat} (hlt : o < stop) (hstop : stop ≤ c.length)
    (f : Bool) : Safe (containerSection c stop o f) := by
  unfold containerSection
  refine Safe.fail fun h1 => ?_
  rw [decide_eq_false_iff_not] at h1
  refine Safe.read (le32At_apply (by omega)) ?_
  refine Triple.bind (R := fun _ _ => True) (Triple.require _ _ (fun _ _ _ => nofun) fun _ _ h => h)
    fun fits => ?_
  have hf := fits.down
  refine Safe.read (le16At_apply (by omega)) ?_
  refine Triple.ite (fun _ => ?_) fun _ => Triple.ite (fun _ => Safe.pure _) fun _ => ?_
  · refine Safe.bind ?_ fun _ => Safe.pure _
    have hlen : u32 c o ≤ (c.drop o).length := by rw [List.length_drop]; omega
    exact Safe.walk 7 (fun p a _ hp => nsrRecord_safe hp hlen a) 7 (Nat.le_refl _) ()
  · refine Safe.read (byteAt_apply (by omega)) (Safe.read (byteAt_apply (by omega)) ?_)
    refine Safe.fail fun _ => Safe.bind ?_ fun _ => Safe.pure _
    unfold heatBlocks
    refine Safe.bind (Safe.modify _) fun _ => Safe.bind ?_ fun _ => ?_
    · exact Safe.walk (o + 8) (fun p w _ hp => heatBlock_safe hp (by omega) w) _ (Nat.le_refl _) 0
    · exact Triple.errorIf _ _ (fun _ _ _ => nofun) fun _ _ h => h

theorem extractHeatmap_safe (c : Bytes) : Safe (extractHeatmap c) := by
  unfold extractHeatmap
  refine Safe.fail fun h1 => ?_
  rw [decide_eq_false_iff_not] at h1
  refine Safe.read (le32At_apply (by omega)) (Safe.fail fun h2 => ?_)
  simp only [Bool.or_eq_false_iff, decide_eq_false_iff_not] at h2
  refine Safe.bind (Safe.modify _) fun _ => Safe.bind ?_ fun _ => ?_
  · have hend : (2 + u32 c 2) % 2 ^ 32 ≤ c.length := (Nat.mod_le _ _).trans (by omega)
    exact Safe.walk 9 (fun o f _ ho => containerSection_safe ho hend f) 9 (Nat.le_refl _) false
  · exact Triple.errorIf _ _ (fun _ _ _ => nofun) fun _ _ h => h

/-- The parser returns 0 on exactly one walk over the container. -/
theorem extractHeatmap_ok {c : Bytes} {s t : HeatBuf} {u : Unit} :
    extractHeatmap c s = (t, .ok u) ↔ 9 ≤ c.length ∧
      (7 ≤ containerLen c ∧ containerLen c ≤ c.length - 2) ∧ containerLen c ≤ 2 ^ 32 - 3 ∧
      Tiles (sectionLen c) 8 9 (sections c) (2 + containerLen c) ∧
      (steps (SectionStep c)).Run (false, { s with nsrValid := false, nsrBinCount := 0 })
        (sections c) (true, t) := by
  simp only [extractHeatmap, bind_eq_ok, fail_eq_ok, le32At_eq_ok, modify_eq_ok,
    decide_eq_false_iff_not, Bool.or_eq_false_iff, Bool.not_eq_false']
  have hlt := u32_lt c 2
  have hwalk : containerLen c ≤ 2 ^ 32 - 3 → 2 + containerLen c ≤ c.length →
    9 ≤ 2 + containerLen c →
      ∀ (s : HeatBuf) (f : Bool) (t : HeatBuf),
      walk ((2 + u32 c 2) % 2 ^ 32) (containerSection c ((2 + u32 c 2) % 2 ^ 32)) 9 false s =
        (t, .ok f) ↔
        Tiles (sectionLen c) 8 9 (sections c) (2 + containerLen c) ∧
          (steps (SectionStep c)).Run (false, s) (sections c) (f, t) := by
    intro hwrap hin h9 s f t
    have he : (2 + u32 c 2) % 2 ^ 32 = 2 + containerLen c :=
      Nat.mod_eq_of_lt (by unfold containerLen at hwrap; omega)
    rw [he]
    exact walk_items (by decide) (fun p a s n b t _ hlt => containerSection_ok hlt hin) 9 false s
      (Nat.le_refl _) h9 f t
  constructor
  · intro hok
    obtain ⟨_, _, ⟨h1, rfl⟩, _, _, ⟨h2, rfl, rfl⟩, _, _, ⟨⟨h3, h4⟩, rfl⟩, _, _, rfl, _, _, h5,
      rfl, rfl⟩ := hok
    have hwrap : containerLen c ≤ 2 ^ 32 - 3 := by
      -- a container end that wraps stands before the first section: nothing is found
      unfold containerLen
      by_contra hbig
      rw [walk, if_neg (by omega)] at h5
      cases h5
    refine ⟨by omega, ?_, hwrap, (hwalk hwrap ?_ ?_ _ _ _).mp h5⟩ <;> unfold containerLen <;> omega
  · intro hgram
    obtain ⟨h1, ⟨h2, h3⟩, hwrap, h4, h5⟩ := hgram
    have h5 := (hwalk hwrap (by omega) (by omega) _ _ _).mpr ⟨h4, h5⟩
    unfold containerLen at h2 h3
    exact ⟨s, (), ⟨by omega, rfl⟩, s, _, ⟨by omega, rfl, rfl⟩, s, (),
      ⟨⟨by omega, by omega⟩, rfl⟩, _, (),
      rfl, t, true, h5, rfl, rfl⟩

theorem NsrRead.decoded {c : Bytes} {l : List Nat} {s t : HeatBuf} (h : NsrRead c l s t)
    (hs : s.nsrValid = false ∧ s.nsrBinCount = 0) : match l.head? with
    | none => t.nsrValid = false ∧ t.nsrBinCount = 0
    | some p => t.nsrValid = true ∧ t.nsrBinCount = u8 c (p + 4) ∧
        ∀ i, t.nsrBins i = if i < u8 c (p + 4) then u16 c (p + 8 + i * 4) else 0 := by
  match l, h with
  | [], h => exact ⟨h.1.trans hs.1, h.2.1.trans hs.2⟩
  | [p], h =>
    obtain ⟨_, _, h1, h2, h3⟩ := h
    exact ⟨h1, h2, fun i => by rw [h3]; rfl⟩
  | _ :: _ :: _, h => exact absurd h.2.2.1 (by simp [putNsr])

/-- What an accepted report looks like, and what the buffers then hold. -/
theorem accepted_grammar {c : Bytes} {s t : HeatBuf} {u : Unit}
    (h : extractHeatmap c s = (t, .ok u)) :
    (HeatGrammar c ∧ containerLen c ≤ 2 ^ 32 - 3) ∧ Decoded c t := by
  obtain ⟨h1, h2, h3, h4, h5⟩ := extractHeatmap_ok.mp h
  obtain ⟨hmeta, hnsr, hheat⟩ := sections_run h5
  cases hl : heatIn c (sections c) with
  | nil => rw [hl] at hheat; cases hheat
  | cons o l =>
    rw [hl] at hheat
    obtain ⟨_, hsec, m, hcells, hrest⟩ := hheat
    cases l with
    | cons o' l => exact absurd hrest.1 (by simp)
    | nil =>
      have hm : t.heatmap = m := congrArg Prod.snd hrest
      refine ⟨⟨⟨h1, h2, h4, hmeta, hnsr.length, hnsr.wf, o, hl, hsec⟩, h3⟩, ?_, ?_⟩
      · intro q hq
        rw [hl] at hq
        rw [List.mem_singleton.mp hq, hm]
        exact hcells
      · exact hnsr.decoded ⟨rfl, rfl⟩

theorem grammar_accepted {c : Bytes} (h : HeatGrammar c) (hend : containerLen c ≤ 2 ^ 32 - 3)
    (s : HeatBuf) :
    ∃ t, extractHeatmap c s = (t, .ok ()) := by
  obtain ⟨h1, h2, h4, hmeta, hone, hwf, o, hl, hsec⟩ := h
  obtain ⟨⟨f, t⟩, hrun⟩ := sections_run_exists (sections c)
    (false, { s with nsrValid := false, nsrBinCount := 0 }) hmeta hone hwf (fun _ => rfl)
    (by rw [hl]; exact Nat.le_refl _)
    (by intro q hq; rw [hl] at hq; rw [List.mem_singleton.mp hq]; exact hsec) (fun _ => rfl)
  have hf := (sections_run hrun).2.2
  rw [hl] at hf
  obtain ⟨_, _, _, _, hrest⟩ := hf
  have hf : f = true := congrArg Prod.fst hrest
  rw [hf] at hrun
  exact ⟨t, extractHeatmap_ok.mpr ⟨h1, h2, hend, h4, hrun⟩⟩

/-- For every byte string and every prior state: no read outside the string;
acceptance is the grammar, with a container end that fits in 32 bits; and an
accepted report is in the buffers. -/
theorem extractHeatmap_spec (c : Bytes) (s : HeatBuf) :
    match extractHeatmap c s with
    | (t, .ok _) => (HeatGrammar c ∧ containerLen c ≤ 2 ^ 32 - 3) ∧ Decoded c t
    | (_, .error e) => e ≠ .oob ∧ ¬ (HeatGrammar c ∧ containerLen c ≤ 2 ^ 32 - 3) := by
  have hsafe := extractHeatmap_safe c s trivial
  cases hx : extractHeatmap c s with
  | mk t r =>
    rw [hx] at hsafe
    cases r with
    | ok u => exact accepted_grammar hx
    | error e =>
      refine ⟨hsafe, fun hgram => ?_⟩
      obtain ⟨t', hok⟩ := grammar_accepted hgram.1 hgram.2 s
      rw [hok] at hx
      cases hx

/-! ## A container end that wraps -/

/-- Scan time, container header, and a heat section of one block of 3128
bytes up to its data; the container says 2^32 - 2 bytes. -/
def wrappedHead : Bytes :=
  [0, 0, 0xfe, 0xff, 0xff, 0xff, 0, 0, 0,
   0x48, 0x0c, 0, 0, 0x00, 0x01, 1, 8,
   0, 0, 0, 0, 0x38, 0x0c, 0, 0]

/-- The header of a section of an unknown type that fills the rest. -/
def wrappedTail : Bytes := [0xaf, 0xf3, 0xff, 0xff, 0, 0, 0, 0]

def wrappedReport (n : Nat) : Bytes :=
  wrappedHead ++ (List.replicate heatSamples 0 ++ (wrappedTail ++ List.replicate n 0))

theorem wrapped_head (n : Nat) {i : Nat} (h : i < 25) : u8 (wrappedReport n) i = u8 wrappedHead i :=
  u8_append h

theorem wrapped_tail (n : Nat) {i : Nat} (h : i < 8) :
    u8 (wrappedReport n) (3153 + i) = u8 wrappedTail i := by
  have hhead : wrappedHead.length = 25 := rfl
  have htail : wrappedTail.length = 8 := rfl
  have hcells : (List.replicate heatSamples (0 : UInt8)).length = 3128 := List.length_replicate
  unfold u8 wrappedReport
  rw [List.getD_append_right _ _ _ _ (by omega), List.getD_append_right _ _ _ _ (by omega),
    hhead, hcells,
    show 3153 + i - 25 - 3128 = i by omega, List.getD_append _ _ _ _ (by omega)]

theorem wrapped_head32 (n : Nat) {i : Nat} (h : i + 3 < 25) :
    u32 (wrappedReport n) i = u32 wrappedHead i := u32_append h

theorem wrapped_tail32 (n : Nat) : u32 (wrappedReport n) 3153 = 4294964143 := by
  unfold u32 u16
  rw [show (3153 : Nat) + 2 + 1 = 3153 + 3 from rfl, wrapped_tail n (by omega),
    wrapped_tail n (by omega), wrapped_tail n (by omega), ← Nat.add_zero 3153,
    wrapped_tail n (by omega)]
  rfl

theorem wrapped_types (n : Nat) : sectionType (wrappedReport n) 9 = heatSection ∧
    sectionType (wrappedReport n) 3153 = 0 := by
  unfold sectionType u16
  rw [wrapped_head n (by omega), wrapped_head n (by omega),
    show (3153 : Nat) + 4 + 1 = 3153 + 5 from rfl, wrapped_tail n (by omega),
      wrapped_tail n (by omega)]
  exact ⟨rfl, rfl⟩

theorem wrapped_sections (n : Nat) : containerLen (wrappedReport n) = 2 ^ 32 - 2 ∧
    Tiles (sectionLen (wrappedReport n)) 8 9 [9, 3153] (2 + containerLen (wrappedReport n)) := by
  have h9 : sectionLen (wrappedReport n) 9 = 3144 := wrapped_head32 n (by omega)
  have hT : sectionLen (wrappedReport n) 3153 = 4294964143 := wrapped_tail32 n
  have hC : containerLen (wrappedReport n) = 4294967294 := wrapped_head32 n (by omega)
  refine ⟨hC, .cons (by omega) ?_⟩
  rw [h9]
  refine .cons (show 8 ≤ sectionLen (wrappedReport n) 3153 by omega) ?_
  rw [hC, show sectionLen (wrappedReport n) (9 + 3144) = 4294964143 from hT]
  exact .nil _

theorem wrapped_grammar (n : Nat) (hn : n + 3161 = 2 ^ 32) : HeatGrammar (wrappedReport n) := by
  obtain ⟨hC, htiles⟩ := wrapped_sections n
  obtain ⟨ht9, htT⟩ := wrapped_types n
  have hlen : (wrappedReport n).length = 2 ^ 32 := by
    unfold wrappedReport
    rw [List.length_append, List.length_append, List.length_append, List.length_replicate,
      List.length_replicate]
    show 25 + (3128 + (8 + n)) = _
    omega
  have hsec : sections (wrappedReport n) = [9, 3153] := (htiles.eq_items (by decide)).symm
  have hne9 : sectionType (wrappedReport n) 9 ≠ metadataSection := by rw [ht9]; decide
  have hneT : sectionType (wrappedReport n) 3153 ≠ metadataSection := by rw [htT]; decide
  have hnsr : nsrIn (wrappedReport n) (sections (wrappedReport n)) = [] := by
    rw [hsec, nsrIn_cons, nsrIn_cons, nsrOf, if_neg hne9, nsrOf, if_neg hneT]; rfl
  have hdest : blockDest (wrappedReport n) 17 = 0 := wrapped_head32 n (by omega)
  have hcount : blockCount (wrappedReport n) 17 = 3128 := wrapped_head32 n (by omega)
  have hblocks : Tiles (blockLen (wrappedReport n)) 8 (9 + 8) [17]
    (9 + sectionLen (wrappedReport n) 9) := by
    have h9 : sectionLen (wrappedReport n) 9 = 3144 := wrapped_head32 n (by omega)
    refine .cons (Nat.le_add_right _ _) ?_
    unfold blockLen
    rw [hcount, h9]
    exact .nil _
  have hb : blocks (wrappedReport n) 9 = [17] := (hblocks.eq_items (by decide)).symm
  refine ⟨by omega, by omega, by rw [hsec]; exact htiles, ?_, by rw [hnsr]; exact Nat.zero_le _,
    by rw [hnsr]; exact nofun, 9, ?_, ?_, ?_, by rw [hb]; exact hblocks, ?_, ?_⟩
  · intro o ho hm
    rw [hsec] at ho
    rcases List.mem_cons.mp ho with rfl | ho
    · exact absurd hm hne9
    · rw [List.mem_singleton.mp ho] at hm; exact absurd hm hneT
  · rw [hsec, heatIn_cons_heat ht9, heatIn_cons_other (by rw [htT]; decide)]; rfl
  · exact wrapped_head n (by omega)
  · exact wrapped_head n (by omega)
  · intro b hbm
    rw [hb] at hbm
    rw [List.mem_singleton.mp hbm, hdest, hcount]
    decide
  · intro i hi
    refine ⟨17, ⟨by rw [hb]; exact List.mem_singleton.mpr rfl, ?_⟩, fun b' hb' => ?_⟩
    · show _ ≤ _ ∧ _ < _ + _
      rw [hdest, hcount]
      exact ⟨Nat.zero_le _, by rw [Nat.zero_add]; exact hi⟩
    · rw [hb] at hb'
      exact List.mem_singleton.mp hb'.1

/-- A report of 2^32 bytes follows the grammar, but its container end is 0 in
32 bits: no section is read, and none is found. -/
theorem wrapped_container_rejected : ∃ c : Bytes, c.length = 2 ^ 32 ∧ HeatGrammar c ∧
    ∀ s, ∃ t e, extractHeatmap c s = (t, .error e) := by
  have hg := wrapped_grammar (2 ^ 32 - 3161) (by decide)
  refine ⟨wrappedReport (2 ^ 32 - 3161), ?_, hg, fun s => ?_⟩
  · unfold wrappedReport
    rw [List.length_append, List.length_append, List.length_append, List.length_replicate,
      List.length_replicate]
    rfl
  · cases hx : extractHeatmap (wrappedReport (2 ^ 32 - 3161)) s with
    | mk t r =>
      cases r with
      | error e => exact ⟨t, e, rfl⟩
      | ok u =>
        have h := (extractHeatmap_ok.mp hx).2.2.1
        rw [(wrapped_sections _).1] at h
        exact absurd h (by decide)

end HeatFrame
end Sp11Touch
