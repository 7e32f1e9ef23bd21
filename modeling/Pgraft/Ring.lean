import Mathlib.Data.Nat.ModEq
import Pgraft.Basic

/-!
# Circular buffers

The worker state holds three circular buffers, each a slot array with `head`, `tail` and
`count`: the command queue and the status buffer of `MAX_COMMANDS` slots, and the apply queue
of `MAX_APPLY_ENTRIES`. `pgraft_util.c` writes the cursor arithmetic out again for each of
them; the shared steps are here (`push`: write the slot at `tail` and advance it; `pop`:
advance `head`). A buffer stands for the `count` slots read from `head` (`contents`). On a
buffer keeping `Ring.Inv`, a push appends to the contents and a pop removes their first
element; along a whole run, what was taken out followed by what is left is what was there
followed by what was put in (`runMoves_conserve`).
-/

namespace Pgraft

/-- A circular buffer: the slot array and its three cursors. -/
structure Ring (α : Type) where
  slots : List α
  head : Nat
  tail : Nat
  count : Nat
deriving DecidableEq, Repr

/-- Two offsets below the capacity land on different slots. -/
theorem add_mod_inj {cap h i j : Nat} (hi : i < cap) (hj : j < cap)
    (e : (h + i) % cap = (h + j) % cap) : i = j := by
  have := Nat.ModEq.add_left_cancel' h e
  rwa [Nat.ModEq, Nat.mod_eq_of_lt hi, Nat.mod_eq_of_lt hj] at this

namespace Ring

variable {α : Type} (cap : Nat)

/-- `buf[tail] = x; tail = (tail + 1) % cap; count++`. -/
def push (r : Ring α) (x : α) : Ring α :=
  { r with slots := r.slots.set r.tail x, tail := (r.tail + 1) % cap, count := r.count + 1 }

/-- `head = (head + 1) % cap; count--`, once the caller has copied `buf[head]`. -/
def pop (r : Ring α) : Ring α := { r with head := (r.head + 1) % cap, count := r.count - 1 }

/-- The cursor discipline of every buffer. -/
structure Inv (r : Ring α) : Prop where
  length_slots : r.slots.length = cap
  head_lt : r.head < cap
  count_le : r.count ≤ cap
  tail_eq : r.tail = (r.head + r.count) % cap

section
variable {cap} {r : Ring α}

@[simp] theorem push_head (x : α) : (r.push cap x).head = r.head := rfl
@[simp] theorem push_count (x : α) : (r.push cap x).count = r.count + 1 := rfl
@[simp] theorem pop_head : (r.pop cap).head = (r.head + 1) % cap := rfl
@[simp] theorem pop_count : (r.pop cap).count = r.count - 1 := rfl

theorem Inv.slot_lt (hr : r.Inv cap) (h : 0 < cap) (i : Nat) :
    (r.head + i) % cap < r.slots.length := by
  rw [hr.length_slots]; exact Nat.mod_lt _ h

theorem Inv.push (hr : r.Inv cap) (hc : r.count < cap) (x : α) : (r.push cap x).Inv cap :=
  ⟨by simp [Ring.push, hr.length_slots], hr.head_lt, hc,
    by simp only [Ring.push, hr.tail_eq, Nat.mod_add_mod, Nat.add_assoc]⟩

theorem Inv.pop (hr : r.Inv cap) (hc : 0 < r.count) : (r.pop cap).Inv cap :=
  ⟨hr.length_slots, Nat.mod_lt _ (by have := hr.head_lt; omega), by simp; have := hr.count_le; omega,
    by simp only [Ring.pop, hr.tail_eq, Nat.mod_add_mod]; congr 1; omega⟩

end

variable [Inhabited α]

/-- A buffer in zero-filled memory. -/
def zero : Ring α := ⟨List.replicate cap default, 0, 0, 0⟩

/-- `buf[i]`. -/
def slot (r : Ring α) (i : Nat) : α := r.slots.getD i default

/-- The `count` slots from `head`, oldest first. -/
def contents (r : Ring α) : List α :=
  (List.range r.count).map fun i => r.slot ((r.head + i) % cap)

/-- The producers' shared body: refuse when `count ≥ cap`, otherwise fill the slot at `tail`
and push it; `fill` writes the producer's fields over what the slot held. -/
def offer (r : Ring α) (fill : α → α) : Option (Ring α) :=
  if cap ≤ r.count then none else some (r.push cap (fill (r.slot r.tail)))

/-- The consumers' shared body: nothing when `count == 0`, otherwise the slot at `head`, and
the buffer popped. -/
def take (r : Ring α) : Option (α × Ring α) :=
  if r.count = 0 then none else some (r.slot r.head, r.pop cap)

variable {cap} {r : Ring α}

@[simp] theorem pop_slot (i : Nat) : (r.pop cap).slot i = r.slot i := rfl

@[simp] theorem length_contents : (r.contents cap).length = r.count := by simp [contents]

theorem getElem_contents {i : Nat} (h : i < (r.contents cap).length) :
    (r.contents cap)[i] = r.slot ((r.head + i) % cap) := by
  simp [contents]

theorem Inv.zero (h : 0 < cap) : (zero cap : Ring α).Inv cap :=
  ⟨by simp [Ring.zero], h, Nat.zero_le _, rfl⟩

/-- A push on a buffer with room appends to its contents. -/
theorem contents_push (hr : r.Inv cap) (hc : r.count < cap) (x : α) :
    (r.push cap x).contents cap = r.contents cap ++ [x] := by
  have hlt : r.tail < r.slots.length := hr.tail_eq ▸ hr.slot_lt (by omega) _
  simp only [contents, push_count, push_head, List.range_succ, List.map_append,
    List.map_singleton]
  congr 1
  · refine List.map_congr_left fun i hi => ?_
    rw [List.mem_range] at hi
    simp only [slot, Ring.push, getD_set_of_lt _ _ hlt]
    rw [if_neg fun e => by rw [hr.tail_eq] at e; have := add_mod_inj hc (by omega) e; omega]
  · rw [← hr.tail_eq]; simp only [slot, Ring.push]; rw [getD_set_of_lt _ _ hlt, if_pos rfl]

/-- A pop on a non-empty buffer takes the slot at `head`, the first of its contents. -/
theorem contents_pop (hr : r.Inv cap) (hc : 0 < r.count) :
    r.contents cap = r.slot r.head :: (r.pop cap).contents cap := by
  obtain ⟨n, hn⟩ : ∃ n, r.count = n + 1 := ⟨r.count - 1, by omega⟩
  simp only [contents, pop_count, hn, List.range_succ_eq_map, List.map_cons, List.map_map,
    Nat.add_zero, Nat.mod_eq_of_lt hr.head_lt, Nat.add_sub_cancel]
  congr 1
  refine List.map_congr_left fun i _ => ?_
  simp only [Function.comp, pop_slot, pop_head, Nat.mod_add_mod, Nat.succ_eq_add_one,
    Nat.add_assoc, Nat.add_comm 1 i]

/-- Overwriting the slot of the `k`-th element overwrites that element only. -/
theorem contents_set (hr : r.Inv cap) {k : Nat} (hk : k < r.count) (x : α) :
    ({ r with slots := r.slots.set ((r.head + k) % cap) x } : Ring α).contents cap =
      (r.contents cap).set k x := by
  have hlt := hr.slot_lt (by have := hr.count_le; omega) k
  refine List.ext_getElem (by simp) fun i h₁ h₂ => ?_
  simp only [length_contents] at h₁
  rw [List.getElem_set, getElem_contents, getElem_contents]
  simp only [slot, getD_set_of_lt _ _ hlt]
  have := hr.count_le
  by_cases hi : k = i
  · simp [hi]
  · rw [if_neg fun e => hi (add_mod_inj (by omega) (by omega) e), if_neg hi]

/-- Advancing `head` by `k` of the `count` elements drops the first `k`. -/
theorem contents_advance (k : Nat) :
    ({ r with head := (r.head + k) % cap, count := r.count - k } : Ring α).contents cap =
      (r.contents cap).drop k := by
  refine List.ext_getElem (by simp) fun i h₁ h₂ => ?_
  rw [List.getElem_drop, getElem_contents, getElem_contents]
  simp only [slot, Nat.mod_add_mod, Nat.add_assoc]

theorem offer_eq_none {fill : α → α} : r.offer cap fill = none ↔ cap ≤ r.count := by
  simp [offer]

theorem Inv.offer (hr : r.Inv cap) {fill : α → α} {r' : Ring α} (h : r.offer cap fill = some r') :
    r'.Inv cap ∧ r'.contents cap = r.contents cap ++ [fill (r.slot r.tail)] := by
  unfold Ring.offer at h
  split at h
  · cases h
  · next hc =>
    cases h
    exact ⟨hr.push (by omega) _, contents_push hr (by omega) _⟩

theorem take_eq_none : r.take cap = none ↔ r.count = 0 := by
  simp [take]

theorem Inv.take (hr : r.Inv cap) {x : α} {r' : Ring α} (h : r.take cap = some (x, r')) :
    r'.Inv cap ∧ r.contents cap = x :: r'.contents cap := by
  unfold Ring.take at h
  split at h
  · cases h
  · next hc =>
    cases h
    exact ⟨hr.pop (by omega), contents_pop hr (by omega)⟩

end Ring

/-! ## Runs -/

section Run

variable {α σ β : Type} (step : β → σ → σ) (io : β → σ → List α × List α)

/-- A run of operations: the final state, the elements taken out and those put in, in order.
`io b s` says what `b` takes out and puts in when run on `s`. -/
def runMoves : σ → List β → σ × List α × List α
  | s, [] => (s, [], [])
  | s, b :: bs =>
    let r := runMoves (step b s) bs
    (r.1, (io b s).1 ++ r.2.1, (io b s).2 ++ r.2.2)

/-- If every step keeps `inv` and moves elements through `view` only at its two ends, a whole
run does: each element put in comes out once, in the order it went in. -/
theorem runMoves_conserve (view : σ → List α) (inv : σ → Prop)
    (h : ∀ b s, inv s → inv (step b s) ∧ (io b s).1 ++ view (step b s) = view s ++ (io b s).2) :
    ∀ (s : σ) (bs : List β), inv s →
      inv (runMoves step io s bs).1 ∧
      (runMoves step io s bs).2.1 ++ view (runMoves step io s bs).1 = view s ++ (runMoves step io s bs).2.2
  | s, [], hs => ⟨hs, by simp [runMoves]⟩
  | s, b :: bs, hs => by
    obtain ⟨hs', hb⟩ := h b s hs
    obtain ⟨hinv, hrun⟩ := runMoves_conserve view inv h (step b s) bs hs'
    refine ⟨hinv, ?_⟩
    simp only [runMoves, List.append_assoc, hrun]
    rw [← List.append_assoc, hb, List.append_assoc]

end Run

end Pgraft
