/-
**No more loads run than there are permits.**

A load gets a permit before it calls the loader and gives it back when the loader is done, whether
that ends with an answer, a failure or a crash, and whether the load still holds its slot or not.

* `handOver`: who holds a permit, as a book kept beside the run. It is read off the number of free
  permits alone.
* `PermitsFit`: the loads that run are those that hold a permit, each one of its own, and with the
  free ones these are all permits. One lemma for each way a permit changes hands
  (`PermitsFit.granted`, `PermitsFit.ended`), from these the step and the run (`permitsFit_turn`,
  `permitsFit_kept`).
* `permits_conserved`: what follows for every run.
-/

import DeviceMapping.Proofs.Cache.Ledger

namespace DeviceMapping.Cache

variable {α : Type}

/-- The load calls the loader. -/
def Runs (cache : Cache α) (load : Nat) : Prop :=
  cache.InPhase (· = .running) load

/-- The loads that hold a permit after an event, by the number of free permits before and after: a
load that asks for one gets it if there is one less, and a load that ends gives it back if there is
one more. -/
def handOver (before : Cache α) (event : Event α) (after : Cache α) (holders : List Nat) :
    List Nat :=
  match event with
  | .grant load => if after.freePermits < before.freePermits then load :: holders else holders
  | .finish load _ | .crash load =>
    if before.freePermits < after.freePermits then holders.erase load else holders
  | _ => holders

/-- The loads that run are those that hold a permit, each one of its own, and the others are free.
-/
structure PermitsFit (permits : Nat) (holders : List Nat) (cache : Cache α) : Prop where
  mem_iff : ∀ load, load ∈ holders ↔ cache.Runs load
  nodup : holders.Nodup
  conserved : holders.length + cache.freePermits = permits

theorem permitsFit_new (settings : CacheSettings) :
    PermitsFit settings.permits [] (Cache.new settings : Cache α) where
  mem_iff := fun load => iff_of_false nofun fun ⟨_, _, running, _⟩ => by cases running
  nodup := .nil
  conserved := Nat.zero_add _

/-! ### How permits change hands -/

section PermitsFit

variable {permits : Nat} {holders : List Nat} {cache after : Cache α} {event : Event α}
  {load : Nat} {device : String} {phase next : Phase α}

namespace PermitsFit

theorem frame (fit : PermitsFit permits holders cache)
    (same : ∀ load, after.Runs load ↔ cache.Runs load)
    (free : after.freePermits = cache.freePermits) : PermitsFit permits holders after where
  mem_iff := fun load => (fit.mem_iff load).trans (same load).symm
  nodup := fit.nodup
  conserved := free ▸ fit.conserved

theorem frame_of_loads (fit : PermitsFit permits holders cache) (loads : after.loads = cache.loads)
    (free : after.freePermits = cache.freePermits) : PermitsFit permits holders after :=
  fit.frame (fun load => by rw [Runs, Runs, InPhase, InPhase, loads]) free

/-- A queued load that gets a free permit runs. -/
theorem granted (fit : PermitsFit permits holders cache)
    (queued : cache.loads[load]? = some ⟨device, .queued⟩)
    (loads : after.loads = (cache.setPhase load .running).loads)
    (free : after.freePermits + 1 = cache.freePermits) :
    PermitsFit permits (load :: holders) after where
  mem_iff := fun other => by
    rw [Runs, inPhase_of_setPhase queued loads, List.mem_cons, fit.mem_iff]
    by_cases same : other = load
    · simp [same]
    · simp [same, Runs]
  nodup := by
    refine List.nodup_cons.mpr ⟨fun holds => ?_, fit.nodup⟩
    cases (inPhase_iff queued).mp ((fit.mem_iff load).mp holds)
  conserved := by
    have conserved := fit.conserved
    rw [List.length_cons]
    omega

/-- A load that ends gives its permit back. -/
theorem ended (fit : PermitsFit permits holders cache)
    (running : cache.loads[load]? = some ⟨device, .running⟩)
    (loads : after.loads = (cache.setPhase load next).loads) (ends : next ≠ .running)
    (free : after.freePermits = cache.freePermits + 1) :
    PermitsFit permits (holders.erase load) after where
  mem_iff := fun other => by
    rw [Runs, inPhase_of_setPhase running loads, fit.nodup.mem_erase_iff, fit.mem_iff]
    by_cases same : other = load
    · simp [same, ends]
    · simp [same, Runs]
  nodup := fit.nodup.erase load
  conserved := by
    have conserved := fit.conserved
    have holds : load ∈ holders := (fit.mem_iff load).mpr ((inPhase_iff running).mpr rfl)
    have shorter := List.length_erase_of_mem holds
    have nonempty := List.length_pos_of_mem holds
    omega

end PermitsFit

/-! ### Steps and runs -/

theorem MakesRoom.same_permits (room : MakesRoom cache after) :
    after.loads = cache.loads ∧ after.freePermits = cache.freePermits := by
  obtain ⟨victims, room⟩ := makesRoom_iff.mp room
  rw [room.eq]
  exact ⟨rfl, rfl⟩

theorem freePermits_store (cache : Cache α) (device : String) (load : Nat) (value : α) :
    (cache.store device load value).freePermits = cache.freePermits := by
  unfold store
  split
  · exact (makesRoom_enforceCapacity _).same_permits.2
  · rfl

/-- An answer gives the permit back, whatever it is and whatever becomes of it. -/
theorem handOver_of_more {result : Except MappingError α} (holders : List Nat)
    (free : after.freePermits = cache.freePermits + 1) :
    handOver cache (.finish load result) after holders = holders.erase load :=
  if_pos (free ▸ Nat.lt_succ_self _)

theorem permitsFit_change (fit : PermitsFit permits holders cache)
    (change : Change cache event after) :
    PermitsFit permits (handOver cache event after holders) after := by
  cases change with
  | joined | hit | found | dropped | purged | advanced | taken | abandoned =>
    exact fit.frame_of_loads rfl rfl
  | began device free expired => exact fit.frame (fun _ => inPhase_of_begun rfl nofun) rfl
  | granted load device queued free =>
    have fewer : cache.freePermits - 1 < cache.freePermits := Nat.sub_lt free Nat.one_pos
    rw [handOver, if_pos fewer]
    exact fit.granted queued rfl (Nat.sub_add_cancel free)
  | stored load device value running =>
    have free := freePermits_store (cache.withAnswer load (.ok value)) device load value
    rw [handOver_of_more holders free]
    exact fit.ended running (loads_store _ _ _ _) nofun free
  | failed load device fault running =>
    rw [handOver_of_more holders rfl]
    exact fit.ended running rfl nofun rfl
  | crashed load device running =>
    rw [handOver, if_pos (Nat.lt_succ_self _)]
    exact fit.ended running rfl nofun rfl
  | noticed call load device waiting unknown =>
    have idle : (.crashed true : Phase α) = .running ↔ (.crashed false : Phase α) = .running :=
      iff_of_false nofun nofun
    exact fit.frame (fun _ => inPhase_of_indifferent unknown rfl idle) rfl
  | refused | unfinished | uncrashed =>
    rw [handOver, if_neg (Nat.lt_irrefl _)]
    exact fit
  | missed | untaken | unabandoned => exact fit

theorem permitsFit_turn (fit : PermitsFit permits holders cache) (turn : Turn cache event after) :
    PermitsFit permits (handOver cache event after holders) after := by
  cases turn with
  | step => exact permitsFit_change fit (change_step cache event)
  | stored load device value running held room =>
    obtain ⟨loads, free⟩ := room.same_permits
    rw [handOver_of_more holders free]
    exact fit.ended running loads nofun free

theorem permitsFit_kept {start : Cache α} {past : List Nat} {events : List (Event α)}
    (fit : PermitsFit permits past start) (kept : Kept handOver start past events holders cache) :
    PermitsFit permits holders cache := by
  induction kept with
  | stays => exact fit
  | turns _ turn ih => exact permitsFit_turn ih turn

/-- However a load that runs ends, its permit is free again. -/
theorem ended_turn (runs : cache.Runs load)
    (turn : (∃ result, Turn cache (.finish load result) after) ∨ Turn cache (.crash load) after) :
    ¬ after.Runs load ∧ after.freePermits = cache.freePermits + 1 := by
  obtain ⟨device, _, running, rfl⟩ := runs
  have silent : ∀ {after : Cache α} {next : Phase α},
      after.loads = (cache.setPhase load next).loads → next ≠ .running → ¬ after.Runs load := by
    intro after next loads ends runs
    rw [Runs, inPhase_of_setPhase running loads, if_pos rfl] at runs
    exact ends runs
  rcases turn with ⟨result, turn⟩ | turn
  · cases turn with
    | step =>
      have change := change_step cache (.finish load result)
      generalize (cache.step (.finish load result)).1 = after at change
      cases change with
      | stored _ other value =>
        exact ⟨silent (loads_store _ _ _ _) nofun, freePermits_store _ _ _ _⟩
      | failed => exact ⟨silent rfl nofun, rfl⟩
      | unfinished _ _ notRunning => exact absurd running (notRunning device)
    | stored _ other value _ _ room =>
      obtain ⟨loads, free⟩ := room.same_permits
      exact ⟨silent loads nofun, free⟩
  · cases turn with
    | step =>
      have change := change_step cache (.crash load)
      generalize (cache.step (.crash load)).1 = after at change
      cases change with
      | crashed => exact ⟨silent rfl nofun, rfl⟩
      | uncrashed _ notRunning => exact absurd running (notRunning device)

/-- A load that waits for a permit gets one that is free. -/
theorem runs_grant (queued : cache.loads[load]? = some ⟨device, .queued⟩)
    (free : 0 < cache.freePermits) : (cache.step (.grant load)).1.Runs load := by
  have change := change_step cache (.grant load)
  generalize (cache.step (.grant load)).1 = after at change
  cases change with
  | granted => exact (inPhase_of_setPhase queued rfl).mpr (by rw [if_pos rfl])
  | refused _ notFree => exact absurd (notFree device queued) (Nat.ne_of_gt free)

end PermitsFit

/-- **No more loads run than there are permits, and no permit is lost.** Every run has a book of who
holds a permit. In every state of every run, however often everything was dropped, whoever gave up
and however loads ended, the permits held and the free ones are together as many as there may be
loads at once, and at least one. The loads that run hold a permit each, whether or not they still
hold their slots, and no other load holds one, no ended one in particular. So no more loads run than
there are permits, and while none runs all permits are free. The permit of a load that runs is free
again however it ends, and a load that waits for a permit gets one that is free. -/
theorem permits_conserved (settings : CacheSettings) :
    (∀ (events : List (Event α)) (cache : Cache α),
      Reaches (Cache.new settings) events cache ↔
        ∃ holders, Kept handOver (Cache.new settings) [] events holders cache) ∧
    ∀ (events : List (Event α)) (holders : List Nat) (cache : Cache α),
      Kept handOver (Cache.new settings) [] events holders cache →
        (holders.length + cache.freePermits = max 1 settings.maxConcurrentLoads.toNat ∧
          holders.Nodup ∧ ∀ load, load ∈ holders ↔ cache.Runs load) ∧
        (∀ load result, cache.resultOf load = some result → load ∉ holders) ∧
        (∀ running : List Nat, running.Nodup → (∀ load ∈ running, cache.Runs load) →
          running.length ≤ max 1 settings.maxConcurrentLoads.toNat) ∧
        ((∀ load, ¬ cache.Runs load) →
          cache.freePermits = max 1 settings.maxConcurrentLoads.toNat) ∧
        (∀ load, cache.Runs load → ∀ after,
          (∃ result, Turn cache (.finish load result) after) ∨ Turn cache (.crash load) after →
            ¬ after.Runs load ∧ after.freePermits = cache.freePermits + 1) ∧
        ∀ load device, cache.loads[load]? = some ⟨device, .queued⟩ → 0 < cache.freePermits →
          (cache.step (.grant load)).1.Runs load := by
  refine ⟨fun events cache => kept_iff handOver [], fun events holders cache kept => ?_⟩
  have fit : PermitsFit settings.permits holders cache :=
    permitsFit_kept (permitsFit_new settings) kept
  have conserved : holders.length + cache.freePermits = max 1 settings.maxConcurrentLoads.toNat :=
    fit.conserved
  refine ⟨⟨conserved, fit.nodup, fit.mem_iff⟩, fun load result ended holds => ?_,
    fun running nodup runs => ?_, fun none => ?_, fun load runs after => ended_turn runs,
    fun load device => runs_grant⟩
  · obtain ⟨device, _, running, rfl⟩ := (fit.mem_iff load).mp holds
    rw [resultOf_of_getElem? running] at ended
    cases ended
  · have within : running.length ≤ holders.length :=
      (List.subperm_of_subset nodup fun load member =>
        (fit.mem_iff load).mpr (runs load member)).length_le
    omega
  · have empty : holders = [] :=
      List.eq_nil_iff_forall_not_mem.mpr fun load holds => none load ((fit.mem_iff load).mp holds)
    rw [empty] at conserved
    exact (Nat.zero_add _).symm.trans conserved

/-- One load at a time, as no number is given; the load that runs is superseded and abandoned. -/
def single : CacheSettings := ⟨2, 300, none, 0⟩

def superseding : List (Event Nat) :=
  [.get "lamp", .grant 0, .invalidateAll, .get "lamp", .grant 1, .abandon 0]

/-- The superseded load has the only permit, and the load that holds the slot waits for it; it gets
the permit after the other one has crashed. -/
theorem permits_conserved_superseded :
    let cache := (Cache.new single).run superseding
    Kept handOver (Cache.new single) [] superseding [0] cache ∧
      cache.slots.get? "lamp" = some (.loading 1) ∧ cache.loads[1]? = some ⟨"lamp", .queued⟩ ∧
      (cache.step (.crash 0)).1.freePermits = 1 ∧
      ((cache.step (.crash 0)).1.step (.grant 1)).1.Runs 1 := by
  intro cache
  obtain ⟨books, fits⟩ := @permits_conserved Nat single
  obtain ⟨holders, kept⟩ := (books superseding cache).mp (reaches_run _ _)
  obtain ⟨⟨conserved, -, mem_iff⟩, -, -, -, ended, -⟩ := fits _ _ _ kept
  have runs : cache.Runs 0 := ⟨"lamp", _, rfl, rfl⟩
  obtain ⟨only, rfl⟩ : ∃ load, holders = [load] := List.length_eq_one_iff.mp conserved
  obtain rfl : 0 = only := List.mem_singleton.mp ((mem_iff 0).mpr runs)
  obtain ⟨holders', kept'⟩ := (books (superseding ++ [.crash 0]) _).mp (reaches_run _ _)
  obtain ⟨-, -, -, -, -, granted⟩ := fits _ _ _ kept'
  exact ⟨kept, rfl, rfl, (ended 0 runs _ (.inr (.step (.crash 0)))).2,
    granted 1 "lamp" rfl Nat.one_pos⟩

end DeviceMapping.Cache
