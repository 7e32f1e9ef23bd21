import Pgraft.Kv

/-!
# The key/value store refines a finite map

`KvStore.view` reads, for each key, the value and version of its live slot among
`entries[0 .. num_entries)`. Every store reachable from the empty one by puts, deletes,
gets, existence checks, compactions and resets keeps at most one live slot per key
(`KvStore.Inv`), so the view is a finite map, and each operation acts on it as a map
operation (`kv_reachable_refines_map`). Versions live on slots: a put that finds no live
slot for its key starts a new slot at version 1, even when the key's tombstone carries a
higher one.
-/

namespace Pgraft

/-! ## Compaction is a stable filter -/

/-- A slot that `pgraft_kv_compact` keeps. -/
def KvEntry.isLive (e : KvEntry) : Bool := !e.deleted

section
variable (orig : List KvEntry)

/-- The moving loop, started at slot `i` with the live slots of `orig` before `i` already in
`es[0 .. j)` and the slots from `i` on untouched. -/
theorem compactMove_spec : ∀ (n i j : Nat) (es : List KvEntry),
    j ≤ i → i + n ≤ orig.length → es.length = orig.length →
    es.take j = (orig.take i).filter KvEntry.isLive → es.drop i = orig.drop i →
    (compactMove es i j n).1.length = orig.length ∧
    (compactMove es i j n).1.take (compactMove es i j n).2 =
      (orig.take (i + n)).filter KvEntry.isLive ∧
    (compactMove es i j n).1.drop (i + n) = orig.drop (i + n) ∧
    (compactMove es i j n).2 ≤ i + n
  | 0, _, _, _, hji, _, hl, ht, hd => ⟨hl, ht, hd, hji⟩
  | n + 1, i, j, es, hji, hn, hl, ht, hd => by
    have hi : i < orig.length := by omega
    have hget : es[i]? = some orig[i] := by
      have := congrArg (·[0]?) hd
      simp only [List.getElem?_drop, Nat.add_zero] at this
      rw [this, List.getElem?_eq_getElem hi]
    have htake : orig.take (i + 1) = orig.take i ++ [orig[i]] := by
      rw [List.take_succ, List.getElem?_eq_getElem hi]; rfl
    have hd' := drop_succ_of_drop_eq hd
    simp only [compactMove, List.getD_eq_getElem?_getD, hget, Option.getD_some]
    rw [show i + (n + 1) = i + 1 + n by omega]
    split
    · next hdel =>
      refine compactMove_spec n (i + 1) j es (by omega) (by omega) hl ?_ hd'
      rw [ht, htake, List.filter_append]; simp [KvEntry.isLive, hdel]
    · next hlive =>
      have hj : j < es.length := by omega
      apply compactMove_spec n (i + 1) (j + 1) _ (by omega) (by omega)
      · split <;> simp [hl]
      · rw [htake, List.filter_append, ← ht]
        simp only [List.filter_cons, List.filter_nil, KvEntry.isLive, hlive, Bool.not_false,
          ite_true]
        split
        · exact take_succ_set _ _ hj
        · next hij =>
          obtain rfl : i = j := by simpa using hij
          rw [List.take_succ, hget]; rfl
      · split
        · rw [List.drop_set, if_pos (by omega), hd']
        · exact hd'

end

theorem compactClear_getD : ∀ (n i m : Nat) (es : List KvEntry),
    (compactClear es i n).getD m default =
      if i ≤ m ∧ m < i + n then default else es.getD m default
  | 0, i, m, es => by simp only [compactClear, Nat.add_zero]; rw [if_neg (by omega)]
  | n + 1, i, m, es => by
    simp only [compactClear, compactClear_getD n (i + 1) m]
    by_cases h : m = i
    · subst h
      by_cases hm : m < es.length
      · simp [hm]
      · simp [List.set_eq_of_length_le (Nat.le_of_not_lt hm),
          List.getElem?_eq_none (Nat.le_of_not_lt hm)]
    · have : (es.set i default).getD m default = es.getD m default := by
        simp [List.getElem?_set_ne (Ne.symm h)]
      rw [this]; congr 1; apply propext; omega

theorem compactClear_length : ∀ (n i : Nat) (es : List KvEntry),
    (compactClear es i n).length = es.length
  | 0, _, _ => rfl
  | n + 1, i, es => by simp [compactClear, compactClear_length n (i + 1)]

theorem compactClear_take : ∀ (n i : Nat) (es : List KvEntry) {m : Nat}, m ≤ i →
    (compactClear es i n).take m = es.take m
  | 0, _, _, _, _ => rfl
  | n + 1, i, es, m, hm => by
    rw [compactClear, compactClear_take n (i + 1) _ (by omega), List.set_take,
      List.set_eq_of_length_le (by simp; omega)]

/-! ## The view and the invariant -/

namespace KvStore

/-- The finite map the store stands for: each key's value and version in its live slot. -/
def view (s : KvStore) (k : String) : Option (String × Int) :=
  (s.active.find? (KvEntry.liveWith k)).map fun e => (e.value, e.version)

/-- What every reachable store satisfies. -/
structure Inv (s : KvStore) : Prop where
  length_entries : s.entries.length = kvSlots
  numEntries_le : s.numEntries ≤ kvSlots
  unique : ∀ k, s.active.countP (KvEntry.liveWith k) ≤ 1
  fits : ∀ e ∈ s.active, e.key.length < 256 ∧ e.value.length < 1024
  zero_tail : ∀ i, s.numEntries ≤ i → s.slot i = default

variable {s t : KvStore} {k : String} {i : Nat} {e : KvEntry}

theorem Inv.of_eq (hs : s.Inv) (he : t.entries = s.entries) (hn : t.numEntries = s.numEntries) :
    t.Inv := by
  obtain ⟨a, b, c, d, f⟩ := hs
  exact ⟨he ▸ a, hn ▸ b, by simpa [active, he, hn] using c, by simpa [active, he, hn] using d,
    by simpa [slot, he, hn] using f⟩

theorem view_of_eq (he : t.entries = s.entries) (hn : t.numEntries = s.numEntries) :
    t.view = s.view := by
  funext k; simp [view, active, he, hn]

@[simp] theorem slot_recordPut (s : KvStore) (l : Int) (j : Nat) :
    (s.recordPut l).slot j = s.slot j := rfl
@[simp] theorem slot_recordDelete (s : KvStore) (l : Int) (j : Nat) :
    (s.recordDelete l).slot j = s.slot j := rfl
@[simp] theorem view_recordPut (s : KvStore) (l : Int) : (s.recordPut l).view = s.view := rfl
@[simp] theorem view_recordDelete (s : KvStore) (l : Int) :
    (s.recordDelete l).view = s.view := rfl

theorem Inv.numEntries_le_length (hs : s.Inv) : s.numEntries ≤ s.entries.length := by
  rw [hs.length_entries]; exact hs.numEntries_le

theorem getElem?_active (hl : s.numEntries ≤ s.entries.length) (hi : i < s.numEntries) :
    s.active[i]? = some (s.slot i) := by
  rw [active, List.getElem?_take_of_lt hi, List.getElem?_eq_getElem (by omega)]
  simp [slot, List.getElem?_eq_getElem (show i < s.entries.length by omega)]

theorem active_setSlot : (s.setSlot i e).active = s.active.set i e := List.set_take

theorem active_push (hn : s.numEntries < s.entries.length) :
    ({ s.setSlot s.numEntries e with numEntries := s.numEntries + 1 } : KvStore).active =
      s.active ++ [e] :=
  take_succ_set _ _ hn

end KvStore

namespace KvEntry

theorem liveWith_iff {k : String} {e : KvEntry} :
    e.liveWith k = true ↔ e.deleted = false ∧ e.key = k := by
  simp [liveWith]

theorem liveWith_key {k : String} {e : KvEntry} (h : e.liveWith k = true) : e.key = k :=
  (liveWith_iff.mp h).2

theorem liveWith_of_key {k : String} {e : KvEntry} (hd : e.deleted = false) (hk : e.key = k) :
    e.liveWith k = true := by
  simp [liveWith, hd, hk]

theorem liveWith_of_ne {k k' : String} {e : KvEntry} (hk : e.key = k) (h : k' ≠ k) :
    e.liveWith k' = false := by
  simp [liveWith, hk, Ne.symm h]

end KvEntry

open KvStore

section
variable {s : KvStore} {k : String} {i : Nat} {e : KvEntry}

/-- What `pgraft_kv_find_entry_index` reports, read on the view. -/
theorem find_some (hl : s.numEntries ≤ s.entries.length)
    (h : pgraftKvFindEntryIndex s k = some i) :
    i < s.numEntries ∧ (s.slot i).liveWith k = true ∧ s.active[i]? = some (s.slot i) ∧
      s.view k = some ((s.slot i).value, (s.slot i).version) := by
  obtain ⟨hi, hp, -⟩ := List.findIdx?_eq_some_iff_getElem.mp h
  have hi' : i < s.numEntries := by simp [active] at hi; omega
  have ha := getElem?_active hl hi'
  rw [List.getElem?_eq_getElem hi, Option.some.injEq] at ha
  refine ⟨hi', by rwa [← ha], by rw [List.getElem?_eq_getElem hi, ha], ?_⟩
  rw [view, find?_eq_getElem?_of_findIdx? h, List.getElem?_eq_getElem hi, ha]; rfl

theorem view_isSome : (s.view k).isSome = (pgraftKvFindEntryIndex s k).isSome := by
  rw [view, Option.isSome_map', find?_isSome_eq_findIdx?]; rfl

theorem view_eq_none (h : pgraftKvFindEntryIndex s k = none) : s.view k = none := by
  simpa [h] using (view_isSome (s := s) (k := k))

/-- Overwriting the found slot with a live slot of the same key. -/
theorem view_setSlot_live (hl : s.numEntries ≤ s.entries.length)
    (h : pgraftKvFindEntryIndex s k = some i) (he : e.liveWith k = true) :
    (s.setSlot i e).view = Function.update s.view k (some (e.value, e.version)) := by
  obtain ⟨-, hslot, hact, -⟩ := find_some hl h
  funext k'
  by_cases hk : k' = k
  · subst hk
    simp [view, active_setSlot, find?_set_of_findIdx? h he]
  · rw [Function.update_noteq hk, view, view, active_setSlot,
      find?_set_of_not (by simp [hact, KvEntry.liveWith_of_ne (KvEntry.liveWith_key hslot) hk])
        (KvEntry.liveWith_of_ne (KvEntry.liveWith_key he) hk)]

/-- Overwriting the found slot with a tombstone of the same key. -/
theorem view_setSlot_dead (hs : s.Inv) (h : pgraftKvFindEntryIndex s k = some i)
    (hd : e.deleted = true) :
    (s.setSlot i e).view = Function.update s.view k none := by
  obtain ⟨-, hslot, hact, -⟩ := find_some hs.numEntries_le_length h
  have hdead : ∀ k', e.liveWith k' = false := by simp [KvEntry.liveWith, hd]
  funext k'
  by_cases hk : k' = k
  · subst hk
    simp [view, active_setSlot, find?_set_of_countP (hs.unique k') h (hdead k')]
  · rw [Function.update_noteq hk, view, view, active_setSlot,
      find?_set_of_not (by simp [hact, KvEntry.liveWith_of_ne (KvEntry.liveWith_key hslot) hk])
        (hdead k')]

/-- Appending a live slot for a key that has none. -/
theorem view_push (hn : s.numEntries < s.entries.length) (h : pgraftKvFindEntryIndex s k = none)
    (he : e.liveWith k = true) :
    ({ s.setSlot s.numEntries e with numEntries := s.numEntries + 1 } : KvStore).view =
      Function.update s.view k (some (e.value, e.version)) := by
  have hnone : s.active.find? (KvEntry.liveWith k) = none := by
    simpa [view] using view_eq_none h
  funext k'
  rw [view, active_push hn]
  by_cases hk : k' = k
  · subst hk; simp [hnone, he]
  · simp [view, Function.update_noteq hk, KvEntry.liveWith_of_ne (KvEntry.liveWith_key he) hk]

end

/-! ## One lemma per operation -/

section
variable {s s' : KvStore} {k v : String} {li now r : Int}

/-- What a returning `pgraft_kv_put` did. -/
theorem pgraftKvPut_eq_ret (h : pgraftKvPut s k v li now = .ret r s') :
    r = 0 ∧ k.length < 256 ∧ v.length < 1024 ∧
    ((∃ i e, pgraftKvFindEntryIndex s k = some i ∧ s' = (s.setSlot i e).recordPut li ∧
        e.key = (s.slot i).key ∧ e.value = v ∧ e.version = (s.slot i).version + 1 ∧
        e.deleted = false) ∨
     (pgraftKvFindEntryIndex s k = none ∧ s.numEntries < 1000 ∧
      ∃ e, s' = ({ s.setSlot s.numEntries e with numEntries := s.numEntries + 1 } :
          KvStore).recordPut li ∧
        e.key = k ∧ e.value = v ∧ e.version = 1 ∧ e.deleted = false)) := by
  unfold pgraftKvPut at h
  by_cases hk : 256 ≤ k.length
  · simp [hk] at h
  by_cases hv : 1024 ≤ v.length
  · simp [hk, hv] at h
  simp only [hk, hv, if_false] at h
  split at h
  · next i hf =>
    simp only [Call.ret.injEq] at h
    obtain ⟨rfl, rfl⟩ := h
    exact ⟨rfl, by omega, by omega,
      .inl ⟨i, _, hf, rfl, rfl, strncpyField_of_lt (by omega), rfl, rfl⟩⟩
  · next hf =>
    by_cases hn : 1000 ≤ s.numEntries
    · simp [hn] at h
    simp only [hn, if_false, Call.ret.injEq] at h
    obtain ⟨rfl, rfl⟩ := h
    exact ⟨rfl, by omega, by omega, .inr ⟨hf, by omega, _, rfl,
      strncpyField_of_lt (by omega), strncpyField_of_lt (by omega), rfl, rfl⟩⟩

/-- `pgraft_kv_put` returns only `0`; otherwise it raises and changes nothing. -/
theorem pgraftKvPut_state_of_not_ret (h : (pgraftKvPut s k v li now).returned ≠ some 0) :
    (pgraftKvPut s k v li now).state = s := by
  unfold pgraftKvPut at h ⊢
  split_ifs <;> try rfl
  all_goals (split <;> simp_all)

theorem pgraftKvPut_returned_iff (hk : k.length < 256) (hv : v.length < 1024) :
    (pgraftKvPut s k v li now).returned = some 0 ↔
      (pgraftKvFindEntryIndex s k).isSome ∨ s.numEntries < 1000 := by
  unfold pgraftKvPut
  simp only [show ¬ 256 ≤ k.length by omega, show ¬ 1024 ≤ v.length by omega, if_false]
  split
  · next hf => simp [hf]
  · next hf => by_cases hn : 1000 ≤ s.numEntries <;> simp [hn, hf]; omega

/-- What a `pgraft_kv_delete` did; it never raises. -/
theorem pgraftKvDelete_cases (s : KvStore) (k : String) (li now : Int) :
    (pgraftKvFindEntryIndex s k = none ∧ pgraftKvDelete s k li now = .ret (-1) s) ∨
    (∃ i e, pgraftKvFindEntryIndex s k = some i ∧
      pgraftKvDelete s k li now = .ret 0 ((s.setSlot i e).recordDelete li) ∧
      e.key = (s.slot i).key ∧ e.value = (s.slot i).value ∧
      e.version = (s.slot i).version + 1 ∧ e.deleted = true) := by
  unfold pgraftKvDelete
  split
  · next hf => exact .inl ⟨hf, rfl⟩
  · next i hf => exact .inr ⟨i, _, hf, rfl, rfl, rfl, rfl, rfl⟩

theorem pgraftKvGet_entries (s : KvStore) (k : String) (n : Nat) :
    (pgraftKvGet s k n).state.entries = s.entries ∧
      (pgraftKvGet s k n).state.numEntries = s.numEntries := by
  unfold pgraftKvGet; split <;> simp

end

/-! ## Every reachable store satisfies the invariant -/

namespace KvStore

variable {s : KvStore} {k : String} {i : Nat} {e : KvEntry}

theorem Inv.empty : KvStore.empty.Inv where
  length_entries := by simp [KvStore.empty]
  numEntries_le := by simp [KvStore.empty]
  unique := by simp [KvStore.empty, active]
  fits := by simp [KvStore.empty, active]
  zero_tail := by
    intro i _; simp only [KvStore.empty, slot, List.getD_eq_getElem?_getD, List.getElem?_replicate]
    split <;> rfl

/-- Overwriting a slot in use with one that is live only where the old one was. -/
theorem Inv.setSlot (hs : s.Inv) (hi : i < s.numEntries)
    (hp : ∀ k, e.liveWith k = true → (s.slot i).liveWith k = true)
    (hfit : e.key.length < 256 ∧ e.value.length < 1024) : (s.setSlot i e).Inv := by
  have hl := hs.numEntries_le_length
  have hact := getElem?_active hl hi
  have hlt : i < s.active.length := by simp [active]; omega
  have hget : s.active[i] = s.slot i := by
    rw [List.getElem?_eq_getElem hlt] at hact; exact Option.some.inj hact
  refine ⟨by simp [hs.length_entries], hs.numEntries_le, fun k => ?_, fun x hx => ?_,
    fun j hj => ?_⟩
  · rw [active_setSlot, List.countP_set _ _ _ _ hlt, hget]
    have := hs.unique k
    by_cases he : e.liveWith k = true <;> simp [he, hp k] <;> omega
  · rw [active_setSlot] at hx
    rcases List.mem_or_eq_of_mem_set hx with hx | rfl
    · exact hs.fits x hx
    · exact hfit
  · rw [setSlot_numEntries] at hj
    have := hs.zero_tail j hj
    simp only [slot, setSlot_entries, List.getD_eq_getElem?_getD] at this ⊢
    rwa [List.getElem?_set_ne (by omega)]

/-- Appending a live slot for a key that has none. -/
theorem Inv.push (hs : s.Inv) (hn : s.numEntries < 1000) (hf : pgraftKvFindEntryIndex s k = none)
    (he : e.liveWith k = true) (hfit : e.key.length < 256 ∧ e.value.length < 1024) :
    ({ s.setSlot s.numEntries e with numEntries := s.numEntries + 1 } : KvStore).Inv := by
  have hlen : s.numEntries < s.entries.length := by rw [hs.length_entries]; exact hn
  have hnone : ∀ x ∈ s.active, x.liveWith k = false :=
    List.findIdx?_eq_none_iff.mp hf
  refine ⟨by simp [hs.length_entries], hn, fun k' => ?_, fun x hx => ?_, fun j hj => ?_⟩
  · rw [active_push hlen, List.countP_append]
    by_cases hk : k' = k
    · subst hk
      have h0 : s.active.countP (KvEntry.liveWith k') = 0 :=
        List.countP_eq_zero.mpr fun x hx => by simp [hnone x hx]
      simp [h0, he]
    · have := hs.unique k'
      simp [KvEntry.liveWith_of_ne (KvEntry.liveWith_key he) hk, this]
  · rw [active_push hlen] at hx
    rcases List.mem_append.mp hx with hx | hx
    · exact hs.fits x hx
    · simp only [List.mem_singleton] at hx; subst hx; exact hfit
  · have := hs.zero_tail j (by simp at hj; omega)
    simp only [slot, setSlot_entries, List.getD_eq_getElem?_getD] at this ⊢
    rwa [List.getElem?_set_ne (by simp at hj; omega)]

/-- `pgraft_kv_compact` keeps exactly the live slots in use, in order. -/
theorem active_compact (hl : s.numEntries ≤ s.entries.length) :
    (pgraftKvCompact s).active = s.active.filter KvEntry.isLive ∧
      (pgraftKvCompact s).entries.length = s.entries.length ∧
      (pgraftKvCompact s).numEntries ≤ s.numEntries ∧
      ∀ m, (pgraftKvCompact s).numEntries ≤ m →
        (pgraftKvCompact s).slot m = if m < s.numEntries then default else s.slot m := by
  obtain ⟨hlen, htake, hdrop, hj⟩ :=
    compactMove_spec s.entries s.numEntries 0 0 s.entries (Nat.le_refl 0) (by omega) rfl
      (by simp) rfl
  simp only [Nat.zero_add] at htake hdrop hj
  refine ⟨?_, by simp [pgraftKvCompact, compactClear_length, hlen], hj, fun m hm => ?_⟩
  · simp only [pgraftKvCompact, active]
    rw [compactClear_take _ _ _ (Nat.le_refl _), htake]
  · simp only [pgraftKvCompact, slot] at hm ⊢
    rw [compactClear_getD]
    by_cases hlt : m < s.numEntries
    · rw [if_pos ⟨hm, by omega⟩, if_pos hlt]
    · rw [if_neg (by omega), if_neg hlt, getD_of_drop_eq _ hdrop (by omega)]

theorem Inv.compact (hs : s.Inv) : (pgraftKvCompact s).Inv := by
  obtain ⟨hact, hlen, hnum, htail⟩ := active_compact hs.numEntries_le_length
  refine ⟨by rw [hlen, hs.length_entries], by have := hs.numEntries_le; omega,
    fun k => ?_, fun x hx => ?_, fun m hm => ?_⟩
  · rw [hact]; exact le_trans (List.Sublist.countP_le _ (List.filter_sublist _)) (hs.unique k)
  · rw [hact] at hx; exact hs.fits x (List.mem_filter.mp hx).1
  · rw [htail m hm]; split
    · rfl
    · exact hs.zero_tail m (by omega)

theorem Inv.reset (s : KvStore) : (pgraftKvReset s).Inv :=
  Inv.of_eq Inv.empty rfl rfl

end KvStore

/-- The calls that reach the store: the SQL functions and the apply path end in these. -/
inductive KvOp
  | put (key value : String) (logIndex now : Int)
  | delete (key : String) (logIndex now : Int)
  | get (key : String) (valueSize : Nat)
  | keyExists (key : String)
  | compact
  | reset

/-- The store a call leaves, whether it returned or raised. -/
def KvOp.apply : KvOp → KvStore → KvStore
  | .put k v l n, s => (pgraftKvPut s k v l n).state
  | .delete k l n, s => (pgraftKvDelete s k l n).state
  | .get k n, s => (pgraftKvGet s k n).state
  | .keyExists _, s => s
  | .compact, s => pgraftKvCompact s
  | .reset, s => pgraftKvReset s

/-- The stores reachable from the empty one. -/
inductive KvReachable : KvStore → Prop
  | empty : KvReachable KvStore.empty
  | step {s : KvStore} (op : KvOp) : KvReachable s → KvReachable (op.apply s)

theorem KvStore.Inv.apply {s : KvStore} (hs : s.Inv) : ∀ op : KvOp, (op.apply s).Inv
  | .put k v l n => by
    by_cases hr : (pgraftKvPut s k v l n).returned = some 0
    · obtain ⟨-, hk, hv, h⟩ := pgraftKvPut_eq_ret (Call.eq_ret_of_returned hr)
      rcases h with ⟨i, e, hf, he, hkey, hval, -, hdel⟩ | ⟨hf, hn, e, he, hkey, hval, -, hdel⟩
      · obtain ⟨hi, hslot, hact, -⟩ := find_some hs.numEntries_le_length hf
        simp only [KvOp.apply, he]
        refine (hs.setSlot hi (fun k' hk' => ?_) ⟨?_, hval ▸ hv⟩).of_eq rfl rfl
        · rw [KvEntry.liveWith_iff] at hk' hslot ⊢
          exact ⟨hslot.1, hkey.symm.trans hk'.2⟩
        · rw [hkey]; exact (hs.fits _ (List.getElem?_mem hact)).1
      · simp only [KvOp.apply, he]
        exact (hs.push hn hf (KvEntry.liveWith_of_key hdel hkey) ⟨hkey ▸ hk, hval ▸ hv⟩).of_eq rfl rfl
    · simpa [KvOp.apply, pgraftKvPut_state_of_not_ret hr] using hs
  | .delete k l n => by
    rcases pgraftKvDelete_cases s k l n with ⟨-, h⟩ | ⟨i, e, hf, h, hkey, hval, -, hdel⟩
    · simpa [KvOp.apply, h] using hs
    · obtain ⟨hi, -, hact, -⟩ := find_some hs.numEntries_le_length hf
      simp only [KvOp.apply, h, Call.state_ret]
      refine (hs.setSlot hi (fun k' hk' => by simp [KvEntry.liveWith, hdel] at hk') ?_).of_eq
        rfl rfl
      rw [hkey, hval]; exact hs.fits _ (List.getElem?_mem hact)
  | .get k n => hs.of_eq (pgraftKvGet_entries s k n).1 (pgraftKvGet_entries s k n).2
  | .keyExists _ => hs
  | .compact => hs.compact
  | .reset => KvStore.Inv.reset s

theorem KvReachable.inv {s : KvStore} (h : KvReachable s) : s.Inv := by
  induction h with
  | empty => exact KvStore.Inv.empty
  | step op _ ih => exact ih.apply op

/-! ## The refinement -/

section
variable {s s' : KvStore} {k v : String} {li now : Int}

theorem view_put (hs : s.Inv) (h : pgraftKvPut s k v li now = .ret 0 s') :
    s'.view = Function.update s.view k (some (v, ((s.view k).map (·.2 + 1)).getD 1)) := by
  have hl := hs.numEntries_le_length
  obtain ⟨-, -, -, h⟩ := pgraftKvPut_eq_ret h
  rcases h with ⟨i, e, hf, rfl, hkey, hval, hver, hdel⟩ | ⟨hf, hn, e, rfl, hkey, hval, hver, hdel⟩
  · obtain ⟨-, hslot, -, hview⟩ := find_some hl hf
    rw [view_recordPut, view_setSlot_live hl hf
      (KvEntry.liveWith_of_key hdel (hkey.trans (KvEntry.liveWith_key hslot))), hview, hval, hver]
    rfl
  · rw [view_recordPut, view_push (by rw [hs.length_entries]; exact hn) hf
      (KvEntry.liveWith_of_key hdel hkey), view_eq_none hf, hval, hver]
    rfl

theorem pgraftKvDelete_returned_iff :
    (pgraftKvDelete s k li now).returned = some 0 ↔ (s.view k).isSome := by
  rw [view_isSome]
  rcases pgraftKvDelete_cases s k li now with ⟨hf, h⟩ | ⟨i, e, hf, h, -⟩ <;> simp [h, hf]

theorem view_delete (hs : s.Inv) (h : pgraftKvDelete s k li now = .ret 0 s') :
    s'.view = Function.update s.view k none := by
  rcases pgraftKvDelete_cases s k li now with ⟨-, h'⟩ | ⟨i, e, hf, h', -, -, -, hdel⟩
  · rw [h'] at h; simp at h
  · rw [h', Call.ret.injEq] at h
    rw [← h.2, view_recordDelete, view_setSlot_dead hs hf hdel]

theorem pgraftKvDelete_state_of_not_ret (h : (pgraftKvDelete s k li now).returned ≠ some 0) :
    (pgraftKvDelete s k li now).state = s := by
  rcases pgraftKvDelete_cases s k li now with ⟨-, h'⟩ | ⟨i, e, -, h', -⟩ <;> simp_all

theorem pgraftKvGet_returned (hs : s.Inv) : (pgraftKvGet s k 1024).returned = some (s.view k) := by
  unfold pgraftKvGet
  split
  · next hf => rw [view_eq_none hf]; rfl
  · next i hf =>
    obtain ⟨-, -, hact, hview⟩ := find_some hs.numEntries_le_length hf
    rw [hview, strncpyField_of_lt (hs.fits _ (List.getElem?_mem hact)).2]; rfl

theorem view_compact (hs : s.Inv) : (pgraftKvCompact s).view = s.view := by
  funext k
  simp only [view, (active_compact hs.numEntries_le_length).1, List.find?_filter]
  congr 2; funext e
  exact Bool.eq_iff_iff.mpr (by simp [KvEntry.isLive, KvEntry.liveWith])

theorem view_reset : (pgraftKvReset s).view = fun _ => none := by
  funext k; simp [view, active, pgraftKvReset]

end

/-- The store refines a finite map at `s`: each key has at most one live slot, and put,
delete, get, exists, compact and reset act on the view as the map operations; a put or
delete that does not return `0` changes nothing. -/
structure KvRefinesMap (s : KvStore) : Prop where
  numEntries_le : s.numEntries ≤ 1000
  unique : ∀ k, s.active.countP (KvEntry.liveWith k) ≤ 1
  put_returns_iff : ∀ k v li now, k.length < 256 → v.length < 1024 →
    ((pgraftKvPut s k v li now).returned = some 0 ↔ (s.view k).isSome ∨ s.numEntries < 1000)
  put_view : ∀ k v li now s', pgraftKvPut s k v li now = .ret 0 s' →
    s'.view = Function.update s.view k (some (v, ((s.view k).map (·.2 + 1)).getD 1))
  delete_returns_iff : ∀ k li now,
    (pgraftKvDelete s k li now).returned = some 0 ↔ (s.view k).isSome
  delete_view : ∀ k li now s', pgraftKvDelete s k li now = .ret 0 s' →
    s'.view = Function.update s.view k none
  get_view : ∀ k, (pgraftKvGet s k 1024).returned = some (s.view k)
  exists_view : ∀ k, pgraftKvExists s k = (s.view k).isSome
  compact_view : (pgraftKvCompact s).view = s.view
  reset_view : (pgraftKvReset s).view = fun _ => none
  put_failed : ∀ k v li now, (pgraftKvPut s k v li now).returned ≠ some 0 →
    (pgraftKvPut s k v li now).state = s
  delete_failed : ∀ k li now, (pgraftKvDelete s k li now).returned ≠ some 0 →
    (pgraftKvDelete s k li now).state = s

theorem kv_reachable_refines_map {s : KvStore} (hs : KvReachable s) : KvRefinesMap s := by
  have hi := hs.inv
  exact ⟨hi.numEntries_le, hi.unique,
    fun k v _ _ hk hv => by rw [pgraftKvPut_returned_iff hk hv, view_isSome],
    fun _ _ _ _ _ h => view_put hi h, fun _ _ _ => pgraftKvDelete_returned_iff,
    fun _ _ _ _ h => view_delete hi h, fun _ => pgraftKvGet_returned hi,
    fun _ => view_isSome.symm, view_compact hi, view_reset,
    fun _ _ _ _ h => pgraftKvPut_state_of_not_ret h,
    fun _ _ _ h => pgraftKvDelete_state_of_not_ret h⟩

/-- A put, a delete and a put of one key: a tombstone and a live slot. -/
theorem kv_reput_refines_map :
    let s := (KvOp.put "k" "b" 3 0).apply ((KvOp.delete "k" 2 0).apply
      ((KvOp.put "k" "a" 1 0).apply KvStore.empty))
    (KvReachable s ∧ s.active.map (fun e => (e.key, e.deleted)) = [("k", true), ("k", false)]) ∧
      KvRefinesMap s :=
  have h : KvReachable ((KvOp.put "k" "b" 3 0).apply ((KvOp.delete "k" 2 0).apply
      ((KvOp.put "k" "a" 1 0).apply KvStore.empty))) := .step _ (.step _ (.step _ .empty))
  ⟨⟨h, by decide⟩, kv_reachable_refines_map h⟩

/-! ## Versions live on slots -/

/-- Puts and deletes: what runs between one compaction or reset and the next. -/
def KvOp.isWrite : KvOp → Bool
  | .put .. | .delete .. => true
  | _ => false

theorem KvStore.slot_setSlot {s : KvStore} {i j : Nat} {e : KvEntry} (hi : i < s.entries.length) :
    (s.setSlot i e).slot j = if j = i then e else s.slot j := by
  by_cases h : j = i
  · subst h; simp [KvStore.slot, hi]
  · simp [KvStore.slot, h, List.getElem?_set_ne (Ne.symm h)]

/-- One put or delete never lowers the version held in any slot. -/
theorem slot_version_apply {s : KvStore} (hs : s.Inv) (op : KvOp) (hw : op.isWrite = true)
    (j : Nat) : (s.slot j).version ≤ ((op.apply s).slot j).version := by
  have hl := hs.numEntries_le_length
  cases op with
  | put k v l n =>
    by_cases hr : (pgraftKvPut s k v l n).returned = some 0
    · obtain ⟨-, -, -, h⟩ := pgraftKvPut_eq_ret (Call.eq_ret_of_returned hr)
      rcases h with ⟨i, e, hf, he, -, -, hver, -⟩ | ⟨-, hn, e, he, -, -, hver, -⟩
      · have hi := (find_some hl hf).1
        simp only [KvOp.apply, he, KvStore.slot_recordPut,
          KvStore.slot_setSlot (show i < s.entries.length by omega)]
        split
        · next h => subst h; rw [hver]; omega
        · exact Int.le_refl _
      · have hn' : s.numEntries < s.entries.length := by rw [hs.length_entries]; exact hn
        simp only [KvOp.apply, he, KvStore.slot_recordPut]
        change (s.slot j).version ≤ ((s.setSlot s.numEntries e).slot j).version
        rw [KvStore.slot_setSlot hn']
        split
        · next h => subst h; rw [hs.zero_tail _ (Nat.le_refl _), hver]; decide
        · exact Int.le_refl _
    · simp [KvOp.apply, pgraftKvPut_state_of_not_ret hr]
  | delete k l n =>
    rcases pgraftKvDelete_cases s k l n with ⟨-, h⟩ | ⟨i, e, hf, h, -, -, hver, -⟩
    · simp [KvOp.apply, h]
    · have hi := (find_some hl hf).1
      simp only [KvOp.apply, h, Call.state_ret, KvStore.slot_recordDelete,
        KvStore.slot_setSlot (show i < s.entries.length by omega)]
      split
      · next h => subst h; rw [hver]; omega
      · exact Int.le_refl _
  | _ => simp [KvOp.isWrite] at hw

theorem KvReachable.apply {s : KvStore} (hs : KvReachable s) (op : KvOp) :
    KvReachable (op.apply s) := .step op hs

/-- Along puts and deletes, no slot's version ever decreases. -/
theorem slot_version_run : ∀ (ops : List KvOp) {s : KvStore}, KvReachable s →
    (∀ op ∈ ops, op.isWrite = true) →
    ∀ j, (s.slot j).version ≤ ((ops.foldl (fun t op => op.apply t) s).slot j).version
  | [], _, _, _, _ => Int.le_refl _
  | op :: ops, s, hs, hw, j =>
    Int.le_trans (slot_version_apply hs.inv op (hw op (by simp)) j)
      (slot_version_run ops (hs.apply op) (fun o ho => hw o (by simp [ho])) j)

/-- Versions are per slot, not per key: between compactions and resets no slot's version
decreases, a put raises the version of the key's live slot by one or starts a new slot at
version 1, and a delete turns the key's live slot into a tombstone one version higher. -/
structure KvVersionsPerSlot (s : KvStore) : Prop where
  run_monotone : ∀ ops : List KvOp, (∀ op ∈ ops, op.isWrite = true) →
    ∀ j, (s.slot j).version ≤ ((ops.foldl (fun t op => op.apply t) s).slot j).version
  put_version : ∀ k v li now s', pgraftKvPut s k v li now = .ret 0 s' →
    s'.view k = some (v, ((s.view k).map (·.2 + 1)).getD 1)
  delete_version : ∀ k li now s', pgraftKvDelete s k li now = .ret 0 s' →
    ∃ i < s.numEntries, (s.slot i).liveWith k = true ∧ (s'.slot i).deleted = true ∧
      (s'.slot i).key = k ∧ (s'.slot i).version = (s.slot i).version + 1

theorem kv_versions_per_slot {s : KvStore} (hs : KvReachable s) : KvVersionsPerSlot s := by
  have hi := hs.inv
  refine ⟨fun ops hw j => slot_version_run ops hs hw j, fun k v li now s' h => ?_,
    fun k li now s' h => ?_⟩
  · simp [view_put hi h]
  · rcases pgraftKvDelete_cases s k li now with ⟨-, h'⟩ | ⟨i, e, hf, h', hkey, -, hver, hdel⟩
    · rw [h'] at h; simp at h
    · obtain ⟨hlt, hslot, -⟩ := find_some hi.numEntries_le_length hf
      rw [h', Call.ret.injEq] at h
      have hs' : s'.slot i = e := by
        rw [← h.2]; change (s.setSlot i e).slot i = e
        rw [KvStore.slot_setSlot (by have := hi.numEntries_le_length; omega), if_pos rfl]
      exact ⟨i, hlt, hslot, hs' ▸ hdel, hs' ▸ hkey.trans (KvEntry.liveWith_key hslot),
        hs' ▸ hver⟩

/-- The same run: the tombstone keeps version 2, the new live slot starts at 1. -/
theorem kv_reput_versions_per_slot :
    let s := (KvOp.put "k" "b" 3 0).apply ((KvOp.delete "k" 2 0).apply
      ((KvOp.put "k" "a" 1 0).apply KvStore.empty))
    (KvReachable s ∧ s.active.map (fun e => (e.deleted, e.version)) = [(true, 2), (false, 1)]) ∧
      KvVersionsPerSlot s :=
  have h : KvReachable ((KvOp.put "k" "b" 3 0).apply ((KvOp.delete "k" 2 0).apply
      ((KvOp.put "k" "a" 1 0).apply KvStore.empty))) := .step _ (.step _ (.step _ .empty))
  ⟨⟨h, by decide⟩, kv_versions_per_slot h⟩

/-- A key's version is not monotone across a delete: after put, delete, put of `"k"`, the
tombstone holds version 2 and the new live slot version 1. -/
theorem kv_reput_restarts_version :
    (pgraftKvDelete (pgraftKvPut KvStore.empty "k" "a" 1 0).state "k" 2 0).returned = some 0 ∧
    (pgraftKvPut (pgraftKvDelete (pgraftKvPut KvStore.empty "k" "a" 1 0).state "k" 2 0).state
      "k" "b" 3 0).returned = some 0 ∧
    ((pgraftKvDelete (pgraftKvPut KvStore.empty "k" "a" 1 0).state "k" 2 0).state.slot 0).key =
      "k" ∧
    ((pgraftKvDelete (pgraftKvPut KvStore.empty "k" "a" 1 0).state "k" 2 0).state.slot 0).version =
      2 ∧
    (pgraftKvPut (pgraftKvDelete (pgraftKvPut KvStore.empty "k" "a" 1 0).state "k" 2 0).state
      "k" "b" 3 0).state.view "k" = some ("b", 1) := by
  decide

/-! ## Compaction, twice -/

/-- The moving loop over slots that are all live moves nothing. -/
theorem compactMove_all_live : ∀ (n i : Nat) (es : List KvEntry),
    (∀ e ∈ (es.drop i).take n, e.isLive = true) → compactMove es i i n = (es, i + n)
  | 0, _, _, _ => rfl
  | n + 1, i, es, h => by
    have hlive : (es.getD i default).deleted = false := by
      by_cases hi : i < es.length
      · have := h es[i] (by rw [List.drop_eq_getElem_cons hi, List.take_succ_cons]; exact List.mem_cons_self _ _)
        simpa [KvEntry.isLive, List.getElem?_eq_getElem hi] using this
      · simp [List.getElem?_eq_none (Nat.le_of_not_lt hi)]; rfl
    have hrest : ∀ e ∈ (es.drop (i + 1)).take n, e.isLive = true := fun e he => h e (by
      by_cases hi : i < es.length
      · rw [List.drop_eq_getElem_cons hi, List.take_succ_cons]; exact List.mem_cons_of_mem _ he
      · simp [List.drop_eq_nil_of_le (show es.length ≤ i + 1 by omega)] at he)
    simp only [compactMove, hlive, Bool.false_eq_true, if_false, ne_eq, not_true_eq_false]
    rw [compactMove_all_live n (i + 1) es hrest, Nat.add_right_comm, Nat.add_assoc]

/-- A store whose slots in use are all live is left as it is by `pgraft_kv_compact`. -/
theorem pgraftKvCompact_of_live {s : KvStore} (h : ∀ e ∈ s.active, e.isLive = true) :
    pgraftKvCompact s = s := by
  have hm := compactMove_all_live s.numEntries 0 s.entries (by simpa [KvStore.active] using h)
  simp only [pgraftKvCompact, hm, Nat.zero_add, Nat.sub_self]
  rfl

/-- What `pgraft_kv_compact` does, on every reachable store: the slots in use become the live
ones, in order and whole; the slots it freed are zeroed (`default` is the all-zero slot);
the slots past the old end and the counters stay; and compacting again changes nothing. -/
structure CompactStableFilter (s : KvStore) : Prop where
  kept : (pgraftKvCompact s).active = s.active.filter KvEntry.isLive
  zeroed : ∀ m, (pgraftKvCompact s).numEntries ≤ m → m < s.numEntries →
    (pgraftKvCompact s).slot m = default
  beyond : ∀ m, s.numEntries ≤ m → (pgraftKvCompact s).slot m = s.slot m
  counters : (pgraftKvCompact s).totalOperations = s.totalOperations ∧
    (pgraftKvCompact s).puts = s.puts ∧ (pgraftKvCompact s).deletes = s.deletes ∧
    (pgraftKvCompact s).gets = s.gets ∧
    (pgraftKvCompact s).lastAppliedIndex = s.lastAppliedIndex
  idempotent : pgraftKvCompact (pgraftKvCompact s) = pgraftKvCompact s

theorem compact_stable_filter {s : KvStore} (hs : KvReachable s) : CompactStableFilter s := by
  obtain ⟨hact, -, hnum, htail⟩ := active_compact hs.inv.numEntries_le_length
  refine ⟨hact, fun m hm hlt => by rw [htail m hm, if_pos hlt],
    fun m hm => by rw [htail m (by omega), if_neg (by omega)], ⟨rfl, rfl, rfl, rfl, rfl⟩,
    pgraftKvCompact_of_live fun e he => ?_⟩
  rw [hact] at he
  exact (List.mem_filter.mp he).2

/-- The same run, compacted: the tombstone goes and the live slot moves to the front. -/
theorem compact_drops_tombstone :
    let s := (KvOp.put "k" "b" 3 0).apply ((KvOp.delete "k" 2 0).apply
      ((KvOp.put "k" "a" 1 0).apply KvStore.empty))
    (KvReachable s ∧ s.numEntries = 2 ∧
      (pgraftKvCompact s).active.map (fun e => (e.key, e.value, e.version)) = [("k", "b", 1)]) ∧
      CompactStableFilter s :=
  have h : KvReachable ((KvOp.put "k" "b" 3 0).apply ((KvOp.delete "k" 2 0).apply
      ((KvOp.put "k" "a" 1 0).apply KvStore.empty))) := .step _ (.step _ (.step _ .empty))
  ⟨⟨h, by decide, by decide⟩, compact_stable_filter h⟩

end Pgraft
