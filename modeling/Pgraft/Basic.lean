import Mathlib.Data.List.Basic

/-!
# Calls into the extension

A C entry point of the extension either returns, or leaves through `elog(ERROR)`, which
unwinds to the caller's error handler. Shared memory written before the `ERROR` is not
rolled back, so both outcomes carry the state the call leaves.

C strings are Lean strings whose characters stand for the string's bytes, so `strlen` is
`String.length`. The last section holds the facts about linear scans over an updated array
that the models of the store, the log and the queues share.
-/

namespace Pgraft

/-- The outcome of one call: a return value, or a raised `ERROR` with its message. -/
inductive Call (σ α : Type) where
  | ret (a : α) (s : σ)
  | raise (msg : String) (s : σ)
deriving DecidableEq, Repr

/-- Results of fallible pure functions are compared by evaluation too. -/
instance instDecidableEqExcept {ε α : Type} [DecidableEq ε] [DecidableEq α] :
    DecidableEq (Except ε α)
  | .error a, .error b => decidable_of_iff (a = b) (by simp)
  | .ok a, .ok b => decidable_of_iff (a = b) (by simp)
  | .error _, .ok _ => isFalse (by simp)
  | .ok _, .error _ => isFalse (by simp)

namespace Call

variable {σ α : Type}

/-- The shared state the call leaves behind. -/
def state : Call σ α → σ
  | ret _ s => s
  | raise _ s => s

/-- The returned value, if the call returned. -/
def returned : Call σ α → Option α
  | ret a _ => some a
  | raise _ _ => none

/-- The same outcome over another shared state. -/
def mapState {τ : Type} (f : σ → τ) : Call σ α → Call τ α
  | ret a s => ret a (f s)
  | raise m s => raise m (f s)

/-- The same outcome with the returned value mapped, as a wrapper converts a callee's code. -/
def map {β : Type} (f : α → β) : Call σ α → Call σ β
  | ret a s => ret (f a) s
  | raise m s => raise m s

@[simp] theorem state_ret (a : α) (s : σ) : (ret a s : Call σ α).state = s := rfl
@[simp] theorem state_raise (m : String) (s : σ) : (raise m s : Call σ α).state = s := rfl
@[simp] theorem returned_ret (a : α) (s : σ) : (ret a s : Call σ α).returned = some a := rfl
@[simp] theorem returned_raise (m : String) (s : σ) : (raise m s : Call σ α).returned = none := rfl

@[simp] theorem state_mapState {τ : Type} (f : σ → τ) (c : Call σ α) :
    (c.mapState f).state = f c.state := by cases c <;> rfl
@[simp] theorem returned_mapState {τ : Type} (f : σ → τ) (c : Call σ α) :
    (c.mapState f).returned = c.returned := by cases c <;> rfl

@[simp] theorem state_map {β : Type} (f : α → β) (c : Call σ α) : (c.map f).state = c.state := by
  cases c <;> rfl

@[simp] theorem map_raise {β : Type} (m : String) (s : σ) (f : α → β) :
    (raise m s : Call σ α).map f = raise m s := rfl
@[simp] theorem map_ret {β : Type} (a : α) (s : σ) (f : α → β) :
    (ret a s : Call σ α).map f = ret (f a) s := rfl

theorem map_eq_ret {β : Type} {c : Call σ α} {f : α → β} {b : β} {s : σ}
    (h : c.map f = ret b s) : ∃ a, c = ret a s ∧ f a = b := by
  cases c with
  | ret a s' => cases h; exact ⟨a, rfl, rfl⟩
  | raise m s' => cases h

theorem eq_ret_of_returned {c : Call σ α} {a : α} (h : c.returned = some a) :
    c = ret a c.state := by
  cases c <;> simp_all

/-- Run `f` on what a returning call leaves; a raised `ERROR` ends the sequence. -/
def bind {β : Type} (c : Call σ α) (f : α → σ → Call σ β) : Call σ β :=
  match c with
  | ret a s => f a s
  | raise m s => raise m s

@[simp] theorem ret_bind {β : Type} (a : α) (s : σ) (f : α → σ → Call σ β) :
    (ret a s).bind f = f a s := rfl
@[simp] theorem raise_bind {β : Type} (m : String) (s : σ) (f : α → σ → Call σ β) :
    (raise m s : Call σ α).bind f = raise m s := rfl

theorem map_bind {β γ : Type} (c : Call σ α) (k : α → σ → Call σ β) (f : β → γ) :
    (c.bind k).map f = c.bind fun a s => (k a s).map f := by
  cases c <;> rfl

theorem bind_eq_ret {β : Type} {c : Call σ α} {f : α → σ → Call σ β} {b : β} {s : σ}
    (h : c.bind f = ret b s) : ∃ a s', c = ret a s' ∧ f a s' = ret b s := by
  cases c with
  | ret a s' => exact ⟨a, s', rfl, h⟩
  | raise m s' => cases h

end Call

/-- `strncpy(dst, src, size - 1); dst[size - 1] = '\0'` into a field of `size` bytes. -/
def strncpyField (size : Nat) (src : String) : String := ⟨src.data.take (size - 1)⟩

/-- The C string a buffer holds: its characters up to the first NUL. -/
def cStr (s : String) : String := ⟨s.data.takeWhile (· ≠ '\x00')⟩

theorem strncpyField_of_lt {size : Nat} {src : String} (h : src.length < size) :
    strncpyField size src = src := by
  have : src.data.length ≤ size - 1 := by
    have := h; simp only [String.length] at this; omega
  simp [strncpyField, List.take_of_length_le this]

theorem cStr_of_not_mem {s : String} (h : '\x00' ∉ s.data) : cStr s = s :=
  congrArg String.mk (List.takeWhile_eq_self_iff.mpr fun c hc => by
    simpa using ne_of_mem_of_not_mem hc h)

/-! ## Scans over an updated list -/

section
variable {α : Type} {p : α → Bool}

theorem find?_set_of_not : ∀ {l : List α} {i : Nat} {x : α},
    (∀ a ∈ l[i]?, p a = false) → p x = false → (l.set i x).find? p = l.find? p
  | [], _, _, _, _ => rfl
  | a :: l, 0, x, ha, hx => by simp_all
  | a :: l, i + 1, x, ha, hx => by
    simp only [List.set_cons_succ, List.find?_cons]
    rw [find?_set_of_not (by simpa using ha) hx]

theorem find?_set_of_findIdx? : ∀ {l : List α} {i : Nat} {x : α},
    l.findIdx? p = some i → p x = true → (l.set i x).find? p = some x
  | [], _, _, h, _ => by simp at h
  | a :: l, i, x, h, hx => by
    simp only [List.findIdx?_cons, Nat.zero_add] at h
    split at h
    · cases h; simp [hx]
    · rw [List.findIdx?_succ] at h
      obtain ⟨j, hj, rfl⟩ := Option.map_eq_some'.mp h
      simp [*, find?_set_of_findIdx? hj hx]

theorem find?_eq_getElem?_of_findIdx? : ∀ {l : List α} {i : Nat},
    l.findIdx? p = some i → l.find? p = l[i]?
  | [], _, h => by simp at h
  | a :: l, i, h => by
    simp only [List.findIdx?_cons, Nat.zero_add] at h
    split at h
    · cases h; simp [*]
    · rw [List.findIdx?_succ] at h
      obtain ⟨j, hj, rfl⟩ := Option.map_eq_some'.mp h
      simp [*, find?_eq_getElem?_of_findIdx? hj]

theorem eraseP_of_findIdx? : ∀ {l : List α} {i : Nat},
    l.findIdx? p = some i → l.eraseP p = l.take i ++ l.drop (i + 1)
  | [], _, h => by simp at h
  | a :: l, i, h => by
    simp only [List.findIdx?_cons, Nat.zero_add] at h
    split at h
    · cases h; simp [*]
    · rw [List.findIdx?_succ] at h
      obtain ⟨j, hj, rfl⟩ := Option.map_eq_some'.mp h
      simp [*, eraseP_of_findIdx? hj]

theorem find?_isSome_eq_findIdx? (l : List α) : (l.find? p).isSome = (l.findIdx? p).isSome := by
  rw [List.findIdx?_isSome, Bool.eq_iff_iff, List.find?_isSome, List.any_eq_true]

/-- With at most one match, overwriting it by a non-match leaves none. -/
theorem find?_set_of_countP {l : List α} {i : Nat} {x : α} (hc : l.countP p ≤ 1)
    (hi : l.findIdx? p = some i) (hx : p x = false) : (l.set i x).find? p = none := by
  obtain ⟨hlt, hp, -⟩ := List.findIdx?_eq_some_iff_getElem.mp hi
  have : (l.set i x).countP p = 0 := by
    rw [List.countP_set _ _ _ _ hlt]; simp [hp, hx]; omega
  simpa [List.find?_eq_none] using List.countP_eq_zero.mp this

theorem take_set_self (l : List α) (j : Nat) (x : α) : (l.set j x).take j = l.take j := by
  rw [List.set_take, List.set_eq_of_length_le (List.length_take_le _ _)]

theorem take_succ_set (l : List α) {j : Nat} (x : α) (hj : j < l.length) :
    (l.set j x).take (j + 1) = l.take j ++ [x] := by
  rw [List.take_succ, take_set_self, List.getElem?_set_self hj]; rfl

theorem getD_of_drop_eq {a b : List α} {i m : Nat} (d : α) (h : a.drop i = b.drop i)
    (hm : i ≤ m) : a.getD m d = b.getD m d := by
  have := congrArg (·[m - i]?) h
  simp only [List.getElem?_drop, Nat.add_sub_cancel' hm] at this
  simp [this]

theorem drop_succ_of_drop_eq {a b : List α} {i : Nat} (h : a.drop i = b.drop i) :
    a.drop (i + 1) = b.drop (i + 1) := by
  simpa using congrArg (List.drop 1) h

theorem getD_set_of_lt [Inhabited α] {l : List α} {i : Nat} (j : Nat) (x : α)
    (hi : i < l.length) : (l.set i x).getD j default = if i = j then x else l.getD j default := by
  simp only [List.getD_eq_getElem?_getD, List.getElem?_set, hi, if_true]
  split <;> rfl

/-- `for (j = i; j < last; j++) a[j] = a[j + 1]`, from slot `j` for `n` slots: the copy loop
that closes the gap a removal leaves. -/
def shiftSlots [Inhabited α] : List α → Nat → Nat → List α
  | l, _, 0 => l
  | l, j, n + 1 => shiftSlots (l.set j (l.getD (j + 1) default)) (j + 1) n

theorem length_shiftSlots [Inhabited α] : ∀ (l : List α) (j n : Nat),
    (shiftSlots l j n).length = l.length
  | _, _, 0 => rfl
  | l, j, n + 1 => by rw [shiftSlots, length_shiftSlots, List.length_set]

theorem shiftSlots_eq [Inhabited α] : ∀ (n j : Nat) (l : List α), j + n < l.length →
    shiftSlots l j n = l.take j ++ (l.drop (j + 1)).take n ++ l.drop (j + n)
  | 0, j, l, _ => by simp [shiftSlots]
  | n + 1, j, l, h => by
    have hj : j + 1 < l.length := by omega
    rw [shiftSlots, shiftSlots_eq n (j + 1) _ (by simp; omega), take_succ_set _ _ (by omega),
      List.drop_set, if_pos (by omega), List.drop_set, if_pos (by omega),
      @List.drop_eq_getElem_cons _ (j + 1) l hj, List.take_succ_cons]
    simp [List.getD_eq_getElem?_getD, List.getElem?_eq_getElem hj, Nat.add_assoc,
      Nat.add_comm 1 n]

/-- Closing the gap at slot `j` among the first `m` slots leaves those slots without slot `j`. -/
theorem take_shiftSlots [Inhabited α] {l : List α} {j m : Nat} (hj : j < m) (hm : m ≤ l.length) :
    (shiftSlots l j (m - 1 - j)).take (m - 1) = (l.take m).eraseIdx j := by
  have hlen : (l.take j ++ (l.drop (j + 1)).take (m - 1 - j)).length = m - 1 := by
    simp only [List.length_append, List.length_take, List.length_drop]; omega
  rw [shiftSlots_eq _ _ _ (by omega), List.take_left' hlen, List.eraseIdx_eq_take_drop_succ,
    List.take_take, Nat.min_eq_left hj.le, List.drop_take, show m - (j + 1) = m - 1 - j by omega]

end

end Pgraft
