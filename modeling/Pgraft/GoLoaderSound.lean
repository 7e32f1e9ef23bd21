import Pgraft.GoLoader
import Pgraft.GucSound

/-!
# What the loader guarantees

Every lookup writes what `dlsym` returns, so a pointer that is set always names an entry point
the library exports, and the first lookup, `pgraft_go_init`, is written by every pass. These
two facts are the loader's invariant (`LoaderInv`): the start of a process has it, a load and
a tick keep it, and so does every call that loads on the way.

Every configuration `pgraft_init_from_gucs` hands to the Go layer is one the checks built
(`init_config_wf`), and a library without `pgraft_go_init_config` sees only its node id and
listen address (`init_without_config_entry_point`).
-/

namespace Pgraft

/-! ## Lookups -/

section Lookups

variable (lib : GoLibrary)

theorem loadSymbol_cases (s : GoSym) (st : GoLoader) :
    let st' := { st with ptr := Function.update st.ptr s (lib.exports s.name) }
    (loadSymbol lib s st = .ret () st' ∧ (s.required = true → lib.exports s.name = true)) ∨
      ∃ m, loadSymbol lib s st = .raise m st' ∧ s.required = true ∧ lib.exports s.name = false := by
  unfold loadSymbol
  cases hr : s.required <;> cases he : lib.exports s.name <;> simp

/-- A pass of lookups writes only pointers, only those it looks up, and each with a value the
library exports or the one it had. -/
theorem loadSymbols_spec (ss : List GoSym) (st : GoLoader) :
    ∃ p, (loadSymbols lib ss st).state = { st with ptr := p } ∧
      (∀ s, p s = true → lib.exports s.name = true ∨ st.ptr s = true) ∧
      ∀ s, s ∉ ss → p s = st.ptr s := by
  induction ss generalizing st with
  | nil => exact ⟨st.ptr, rfl, fun _ h => .inr h, fun _ _ => rfl⟩
  | cons t ss ih =>
    have hu : ∀ s, Function.update st.ptr t (lib.exports t.name) s = true →
        lib.exports s.name = true ∨ st.ptr s = true := fun s h => by
      by_cases hs : s = t
      · subst hs; rw [Function.update_same] at h; exact .inl h
      · rw [Function.update_noteq hs] at h; exact .inr h
    rcases loadSymbol_cases lib t st with ⟨he, -⟩ | ⟨m, he, -⟩
    · obtain ⟨p, hp, hs, hn⟩ := ih { st with ptr := Function.update st.ptr t (lib.exports t.name) }
      refine ⟨p, by rw [loadSymbols, he, Call.ret_bind, hp], fun s h => ?_, fun s h => ?_⟩
      · rcases hs s h with h | h
        · exact .inl h
        · exact hu s h
      · rw [List.mem_cons, not_or] at h
        rw [hn s h.2]
        exact Function.update_noteq h.1 _ _
    · refine ⟨_, by rw [loadSymbols, he, Call.raise_bind]; rfl, hu, fun s h => ?_⟩
      exact Function.update_noteq (List.ne_of_not_mem_cons h) _ _

/-- A pass returns exactly when none of the entry points it needs is missing. -/
theorem loadSymbols_returned (ss : List GoSym) (st : GoLoader) :
    (loadSymbols lib ss st).returned = some () ↔
      ∀ s ∈ ss, s.required = true → lib.exports s.name = true := by
  induction ss generalizing st with
  | nil => simp [loadSymbols]
  | cons t ss ih =>
    rw [List.forall_mem_cons]
    rcases loadSymbol_cases lib t st with ⟨he, ht⟩ | ⟨m, he, ht, hm⟩
    · rw [loadSymbols, he, Call.ret_bind, ih]
      exact ⟨fun h => ⟨ht, h⟩, fun h => h.2⟩
    · rw [loadSymbols, he, Call.raise_bind, Call.returned_raise]
      simp [ht, hm]

/-- The first lookup of a pass is written whatever the others do. -/
theorem loadSymbols_cons_ptr {s : GoSym} {ss : List GoSym} (h : s ∉ ss) (st : GoLoader) :
    (loadSymbols lib (s :: ss) st).state.ptr s = lib.exports s.name := by
  rcases loadSymbol_cases lib s st with ⟨he, -⟩ | ⟨m, he, -⟩
  · obtain ⟨p, hp, -, hn⟩ := loadSymbols_spec lib ss
      { st with ptr := Function.update st.ptr s (lib.exports s.name) }
    rw [loadSymbols, he, Call.ret_bind, hp]
    exact (hn s h).trans (Function.update_same _ _ _)
  · rw [loadSymbols, he, Call.raise_bind, Call.state_raise]
    exact Function.update_same _ _ _

end Lookups

/-! ## The loader's invariant -/

/-- What holds of the statics in every state a process reaches: a pointer that is set names an
entry point the library exports, and once the handle is set the `pgraft_go_init` pointer is
set exactly when the library exports it. -/
structure LoaderInv (lib : GoLibrary) (st : GoLoader) : Prop where
  sound : ∀ s, st.ptr s = true → lib.exports s.name = true
  init : st.handle = true → st.ptr .init = lib.exports "pgraft_go_init"

section Invariant

variable {env : LoadEnv} {lib : GoLibrary} {st : GoLoader}

theorem LoaderInv.fresh : LoaderInv lib GoLoader.fresh :=
  ⟨fun _ h => (nomatch h), fun h => (nomatch h)⟩

theorem pgraftGoLoadSymbols_handle (lib : GoLibrary) (st : GoLoader) :
    (pgraftGoLoadSymbols lib st).state.handle = st.handle := by
  obtain ⟨p, hp, -, -⟩ := loadSymbols_spec lib goSymbols st
  rw [pgraftGoLoadSymbols, hp]

/-- A full pass of lookups over a state whose pointers are sound. -/
theorem LoaderInv.of_loadSymbols (hs : ∀ s, st.ptr s = true → lib.exports s.name = true) :
    LoaderInv lib (pgraftGoLoadSymbols lib st).state := by
  obtain ⟨p, hp, hps, -⟩ := loadSymbols_spec lib goSymbols st
  have hi := loadSymbols_cons_ptr lib (s := .init) (show GoSym.init ∉ goSymbols.tail by decide) st
  rw [pgraftGoLoadSymbols, hp]
  rw [show GoSym.init :: goSymbols.tail = goSymbols from rfl, hp] at hi
  exact ⟨fun s h => (hps s h).elim id (hs s), fun _ => hi⟩

/-- Everything a load can do: nothing, a second pass of lookups with the handle set, or, with
the handle unset, an `ERROR` that changes nothing or a pass on the library just opened. -/
theorem pgraftGoLoadLibrary_cases (env : LoadEnv) (lib : GoLibrary) (st : GoLoader) :
    (st.handle = true ∧ st.ptr .init = true ∧ pgraftGoLoadLibrary env lib st = .ret 0 st) ∨
      (st.handle = true ∧ st.ptr .init = false ∧
        pgraftGoLoadLibrary env lib st = (pgraftGoLoadSymbols lib st).map fun _ => 0) ∨
      (st.handle = false ∧ ((∃ m, pgraftGoLoadLibrary env lib st = .raise m st) ∨
        pgraftGoLoadLibrary env lib st =
          (pgraftGoLoadSymbols lib { st with handle := true }).map fun _ => 0)) := by
  unfold pgraftGoLoadLibrary
  cases hh : st.handle <;> cases hi : st.ptr .init <;> simp only [Bool.and_self, Bool.and_true,
    Bool.and_false, Bool.true_and, Bool.false_eq_true, if_false, if_true, true_and, false_and,
    true_or, or_true, and_self, exists_const, false_or, reduceCtorEq]
  all_goals
    split
    · exact .inl ⟨_, rfl⟩
    · split
      · exact .inr rfl
      · exact .inl ⟨_, rfl⟩

theorem LoaderInv.load (h : LoaderInv lib st) : LoaderInv lib (pgraftGoLoadLibrary env lib st).state := by
  rcases pgraftGoLoadLibrary_cases env lib st with ⟨-, -, he⟩ | ⟨-, -, he⟩ | ⟨-, ⟨m, he⟩ | he⟩
  · rw [he]; exact h
  · rw [he, Call.state_map]; exact LoaderInv.of_loadSymbols h.sound
  · rw [he]; exact h
  · rw [he, Call.state_map]; exact @LoaderInv.of_loadSymbols lib { st with handle := true } h.sound

theorem pgraftGoTick_statics (lib : GoLibrary) (st : GoLoader) :
    (pgraftGoTick lib st).2.handle = st.handle ∧ (pgraftGoTick lib st).2.ptr = st.ptr := by
  unfold pgraftGoTick
  split
  · exact ⟨rfl, rfl⟩
  · dsimp only
    split <;> exact ⟨rfl, rfl⟩

theorem LoaderInv.step (h : LoaderInv lib st) (op : LoaderOp) : LoaderInv lib (op.step env lib st) := by
  cases op with
  | load => exact h.load
  | tick =>
    obtain ⟨hh, hp⟩ := pgraftGoTick_statics lib st
    exact ⟨hp ▸ h.sound, fun h' => hp ▸ h.init (hh ▸ h')⟩

theorem LoaderInv.run (h : LoaderInv lib st) (ops : List LoaderOp) :
    LoaderInv lib (LoaderOp.run env lib ops st) := by
  induction ops generalizing st with
  | nil => exact h
  | cons op ops ih => exact ih (h.step op)

end Invariant

/-! ## A sample installation -/

/-- A standard install: the setting unset, the library under `PKGLIBDIR`, readable and
opened. -/
def sampleEnv : LoadEnv :=
  ⟨"", "/usr/lib/postgresql/16/lib", 160000, fun _ => true, fun _ => true, ""⟩

/-! ## Initialization -/

section Init

variable {env : LoadEnv} {lib : GoLibrary} {g : Gucs} {st st' : GoLoader}

theorem pgraftGoLoadLibrary_returned {r : Int} (h : pgraftGoLoadLibrary env lib st = .ret r st') :
    r = 0 ∧ st'.handle = true := by
  rcases pgraftGoLoadLibrary_cases env lib st with ⟨hh, -, he⟩ | ⟨hh, -, he⟩ | ⟨-, ⟨m, he⟩ | he⟩
  · rw [he] at h; cases h; exact ⟨rfl, hh⟩
  · rw [he] at h
    obtain ⟨_, hc, rfl⟩ := Call.map_eq_ret h
    have := pgraftGoLoadSymbols_handle lib st
    rw [hc, Call.state_ret] at this
    exact ⟨rfl, this.trans hh⟩
  · rw [he] at h; cases h
  · rw [he] at h
    obtain ⟨_, hc, rfl⟩ := Call.map_eq_ret h
    have := pgraftGoLoadSymbols_handle lib { st with handle := true }
    rw [hc, Call.state_ret] at this
    exact ⟨rfl, this⟩

theorem ensureLoaded_returned {m : String} (h : ensureLoaded env lib m st = .ret () st') :
    st'.handle = true ∧ (st' = st ∨ st' = (pgraftGoLoadLibrary env lib st).state) := by
  unfold ensureLoaded at h
  split at h
  · cases h; exact ⟨‹_›, .inl rfl⟩
  · obtain ⟨r, s, hl, hr⟩ := Call.bind_eq_ret h
    split at hr
    · cases hr
    · cases hr
      exact ⟨(pgraftGoLoadLibrary_returned hl).2, .inr (by rw [hl]; rfl)⟩

theorem LoaderInv.of_load_or_self (h : LoaderInv lib st)
    (hs : st' = st ∨ st' = (pgraftGoLoadLibrary env lib st).state) : LoaderInv lib st' := by
  rcases hs with rfl | rfl
  · exact h
  · exact h.load

/-- Everything a returning `pgraft_init_from_gucs` has done: nothing, when the Go layer says it
is initialized; or built the configuration, loaded on the way, and had `0` from the Go layer's
init and start, and some answer from its network server. -/
theorem pgraftInitFromGucs_returned {r : Option GoConfig}
    (h : pgraftInitFromGucs env lib g st = .ret r st') :
    (r = none ∧ st' = st ∧ pgraftGoIsInitialized lib st ≠ 0) ∨
      ∃ c, r = some c ∧ initConfig g = .ok c ∧ st'.handle = true ∧
        (st' = st ∨ st' = (pgraftGoLoadLibrary env lib st).state) ∧
        pgraftGoInitWithConfig lib st' c = .ok 0 ∧ pgraftGoStart lib st' = .ok 0 ∧
        ∃ n, pgraftGoStartNetworkServer lib st' c.port = .ok n := by
  unfold pgraftInitFromGucs at h
  split at h
  · cases h; exact .inl ⟨rfl, rfl, ‹_›⟩
  split at h
  · cases h
  rename_i c hc
  obtain ⟨_, s₁, hl, h⟩ := Call.bind_eq_ret h
  obtain ⟨hh, hs⟩ := ensureLoaded_returned hl
  obtain ⟨r₁, hw, h⟩ := Call.lift_bind_eq_ret h
  obtain rfl : r₁ = 0 := by by_contra h₁; rw [if_pos h₁] at h; cases h
  rw [if_neg (fun h => h rfl)] at h
  obtain ⟨r₂, hst, h⟩ := Call.lift_bind_eq_ret h
  obtain rfl : r₂ = 0 := by by_contra h₂; rw [if_pos h₂] at h; cases h
  rw [if_neg (fun h => h rfl)] at h
  obtain ⟨n, hn, rfl, rfl⟩ := Call.lift_map_eq_ret h
  exact .inr ⟨c, rfl, hc, hh, hs, hw, hst, n, hn⟩

/-- A configuration reaches the Go layer only once every check has passed. -/
theorem initConfig_of_init {c : GoConfig}
    (h : (pgraftInitFromGucs env lib g st).returned = some (some c)) : initConfig g = .ok c := by
  rcases pgraftInitFromGucs_returned (Call.eq_ret_of_returned h) with ⟨h', -⟩ | ⟨c', hc, hi, -⟩
  · cases h'
  · cases hc; exact hi

end Init

/-- Every configuration `pgraft_init_from_gucs` hands to the Go layer is well formed, and its
members are those of `initial_cluster`, in order, with their peer URLs parsed. -/
theorem init_config_wf {env : LoadEnv} {lib : GoLibrary} {g : Gucs} {st : GoLoader} {c : GoConfig}
    (h : (pgraftInitFromGucs env lib g st).returned = some (some c)) :
    c.Wf ∧ ∃ ms, pgraftParseInitialCluster g.initialCluster = .ok ms ∧
      ms.mapM goMember = .ok c.clusterMembers :=
  initConfig_wf (initConfig_of_init h)

/-- Without `pgraft_go_init_config`, a configuration reaches the Go layer as its node id,
address and port only. -/
theorem pgraftGoInitWithConfig_legacy {lib : GoLibrary} {st : GoLoader} {c c' : GoConfig}
    (hI : LoaderInv lib st) (hn : lib.exports "pgraft_go_init_config" = false)
    (hc : c.nodeId = c'.nodeId ∧ c.address = c'.address ∧ c.port = c'.port) :
    pgraftGoInitWithConfig lib st c = pgraftGoInitWithConfig lib st c' := by
  have hp : st.ptr .initConfig = false := by
    cases h : st.ptr .initConfig
    · rfl
    · exact absurd (hI.sound _ h) (by rw [show lib.exports GoSym.initConfig.name = false from hn]; decide)
  obtain ⟨h₁, h₂, h₃⟩ := hc
  simp only [pgraftGoInitWithConfig, hp, h₁, h₂, h₃, Bool.not_false, if_true]

/-- With a library that does not export `pgraft_go_init_config`, the settings reach the Go
layer only as node id `1` and the listen host and port: two settings the checks accept with the
same listen address end the same way, whatever their members, token or timeouts. -/
theorem init_without_config_entry_point {env : LoadEnv} {lib : GoLibrary} {g g' : Gucs}
    {c c' : GoConfig} (ops : List LoaderOp) (hn : lib.exports "pgraft_go_init_config" = false)
    (hc : initConfig g = .ok c) (hc' : initConfig g' = .ok c')
    (ha : c.listenPeerHost = c'.listenPeerHost ∧ c.listenPeerPort = c'.listenPeerPort) :
    (pgraftInitFromGucs env lib g (LoaderOp.run env lib ops GoLoader.fresh)).map Option.isSome =
      (pgraftInitFromGucs env lib g' (LoaderOp.run env lib ops GoLoader.fresh)).map
        Option.isSome := by
  have hI : LoaderInv lib (LoaderOp.run env lib ops GoLoader.fresh) := LoaderInv.fresh.run ops
  have hw := (initConfig_wf hc).1
  have hw' := (initConfig_wf hc').1
  have hid : c.nodeId = c'.nodeId ∧ c.address = c'.address ∧ c.port = c'.port :=
    ⟨hw.node_id.trans hw'.node_id.symm, hw.address.1.trans (ha.1.trans hw'.address.1.symm),
      hw.address.2.trans (ha.2.trans hw'.address.2.symm)⟩
  unfold pgraftInitFromGucs
  rw [hc, hc']
  split
  · rfl
  cases he : ensureLoaded env lib "pgraft: failed to load Go library"
    (LoaderOp.run env lib ops GoLoader.fresh) with
  | raise m s => rfl
  | ret u s =>
    have hIs := hI.of_load_or_self (ensureLoaded_returned he).2
    simp only [Call.ret_bind, Call.map_bind, pgraftGoInitWithConfig_legacy hIs hn hid, hid.2.2,
      apply_ite (Call.map Option.isSome), Call.map_raise, Call.map_map]
    rfl

set_option maxRecDepth 2000 in
/-- The boot values against a second member on the same listen address, with the sample library
lacking `pgraft_go_init_config`. -/
theorem init_without_config_second_member :
    let lib : GoLibrary := { sampleLibrary with exports := fun n => n != "pgraft_go_init_config" }
    let g' : Gucs :=
      { Gucs.default with initialCluster := "default=http://localhost:2380,b=http://b:2380" }
    let c := goConfigOf Gucs.default [⟨"default", "localhost", 2380⟩] "localhost" 2380
    let c' := goConfigOf g' [⟨"default", "localhost", 2380⟩, ⟨"b", "b", 2380⟩] "localhost" 2380
    (lib.exports "pgraft_go_init_config" = false ∧ initConfig Gucs.default = .ok c ∧
      initConfig g' = .ok c' ∧
      (c.listenPeerHost = c'.listenPeerHost ∧ c.listenPeerPort = c'.listenPeerPort)) ∧
    (pgraftInitFromGucs sampleEnv lib Gucs.default
        (LoaderOp.run sampleEnv lib [] GoLoader.fresh)).map Option.isSome =
      (pgraftInitFromGucs sampleEnv lib g' (LoaderOp.run sampleEnv lib [] GoLoader.fresh)).map
        Option.isSome := by
  intro lib g' c c'
  have hc : initConfig Gucs.default = .ok c := by decide
  have hc' : initConfig g' = .ok c' := by decide
  exact ⟨⟨by decide, hc, hc', rfl, rfl⟩,
    init_without_config_entry_point [] (by decide) hc hc' ⟨rfl, rfl⟩⟩

set_option maxRecDepth 2000 in
/-- The boot values, in a fresh process, with a library that exports every entry point and
answers `0`: one member on `localhost:2380`. -/
theorem init_config_wf_at_defaults :
    let c := goConfigOf Gucs.default [⟨"default", "localhost", 2380⟩] "localhost" 2380
    (pgraftInitFromGucs sampleEnv sampleLibrary Gucs.default GoLoader.fresh).returned = some (some c) ∧
      (c.Wf ∧ ∃ ms, pgraftParseInitialCluster Gucs.default.initialCluster = .ok ms ∧
        ms.mapM goMember = .ok c.clusterMembers) := by
  intro c
  have h : (pgraftInitFromGucs sampleEnv sampleLibrary Gucs.default GoLoader.fresh).returned = some (some c) := by
    decide
  exact ⟨h, init_config_wf h⟩

end Pgraft
