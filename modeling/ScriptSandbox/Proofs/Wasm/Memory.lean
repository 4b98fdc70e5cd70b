import ScriptSandbox.Proofs.Wasm.Pages

/-!
# What memories hold

A page holds all of its bytes or none, and one that holds none reads as zeros. In a memory of such
pages, a byte that is written is read again, and no other byte changes. The same then holds of
numbers and of runs of bytes: what is written is read again, until something is written over it.

## Main definitions

* `Wasm.Memory.IsPaged`: every page holds all of its bytes or none

## Main results

* `Wasm.Memory.readNat_writeNat`, `Wasm.Memory.readBytes_writeBytes`: what is written is read again
* `Wasm.Memory.readNat_congr`, `Wasm.Memory.readBytes_congr`: what is read is what is there
* `Wasm.Memory.get_writeNat_of_not_mem`, `Wasm.Memory.get_writeBytes_of_not_mem`: nothing else
  changes
-/

namespace ScriptSandbox.Wasm.Memory

variable {m m' : Memory} {page : ByteArray} {address address' length offset value : Nat} {b : UInt8}
  {bytes : List UInt8}

/-! ### Pages -/

/-- The byte of a page at an offset; zero if the page does not hold it. -/
def inPage (page : ByteArray) (offset : Nat) : UInt8 := page.data.getD offset 0

/-- A page that holds all of its bytes or none. -/
def IsPage (page : ByteArray) : Prop := page.size = 0 ∨ page.size = pageBytes

theorem inPage_of_size_eq_zero (h : page.size = 0) (offset : Nat) : inPage page offset = 0 := by
  have hempty : page.data = #[] := Array.eq_empty_of_size_eq_zero h
  rw [inPage, hempty]
  rfl

theorem size_zeroPage : zeroPage.size = pageBytes := Array.size_replicate

theorem inPage_zeroPage (offset : Nat) : inPage zeroPage offset = 0 := by
  unfold inPage zeroPage Array.getD
  split_ifs
  · exact Array.getElem_replicate _
  · rfl

/-- The bytes of a page after one was changed. -/
theorem inPage_set (h : offset < page.size) (b : UInt8) (offset' : Nat) :
    inPage (page.set offset b h) offset' = if offset' = offset then b else inPage page offset' := by
  have hset : (page.set offset b h).data = page.data.set offset b h := rfl
  rw [inPage, hset, inPage, Array.getD_eq_getD_getElem?, Array.getD_eq_getD_getElem?,
    Array.getElem?_set]
  by_cases heq : offset' = offset
  · rw [if_pos heq.symm, if_pos heq]
    rfl
  · rw [if_neg (Ne.symm heq), if_neg heq]

theorem isPage_setInPage (h : IsPage page) (offset : Nat) (b : UInt8) :
    IsPage (setInPage page offset b) := by
  have hpage : IsPage (if page.size = 0 then zeroPage else page) := by
    split_ifs
    · exact .inr size_zeroPage
    · exact h
  unfold setInPage
  dsimp only
  generalize (if page.size = 0 then zeroPage else page) = page' at hpage
  split_ifs with hlt
  · have hsize : (page'.set offset b hlt).size = page'.size := Array.size_set _
    rwa [IsPage, hsize]
  · exact hpage

theorem inPage_setInPage (h : IsPage page) (hoffset : offset < pageBytes) (b : UInt8)
    (offset' : Nat) :
    inPage (setInPage page offset b) offset' =
      if offset' = offset then b else inPage page offset' := by
  unfold setInPage
  dsimp only
  by_cases hzero : page.size = 0
  · -- a page is made for the byte
    have hlt : offset < zeroPage.size := size_zeroPage ▸ hoffset
    rw [inPage_of_size_eq_zero hzero]
    simp only [if_pos hzero, dif_pos hlt, inPage_set, inPage_zeroPage]
  · have hlt : offset < page.size := h.resolve_left hzero ▸ hoffset
    simp only [if_neg hzero, dif_pos hlt, inPage_set]

/-! ### Single bytes -/

/-- Every page of a memory holds all of its bytes or none. -/
def IsPaged (m : Memory) : Prop := ∀ page ∈ m.pages, IsPage page

theorem get_eq (m : Memory) (address : Nat) :
    m.get address =
      inPage (m.pages.getD (address / pageBytes) ByteArray.empty) (address % pageBytes) := by
  unfold get inPage Array.getD
  rfl

theorem pages_set (m : Memory) (address : Nat) (b : UInt8) :
    (m.set address b).pages =
      m.pages.modify (address / pageBytes) fun page => setInPage page (address % pageBytes) b := rfl

theorem isPaged_zeros (pages : Nat) (maximum : Option Nat) (shared : Bool) :
    (zeros pages maximum shared).IsPaged := by
  intro page hpage
  obtain ⟨-, rfl⟩ := Array.mem_replicate.mp hpage
  exact .inl rfl

theorem IsPaged.set (h : m.IsPaged) (address : Nat) (b : UInt8) : (m.set address b).IsPaged := by
  intro page hpage
  rw [pages_set, Array.mem_iff_getElem] at hpage
  obtain ⟨i, hi, rfl⟩ := hpage
  have hi' : i < m.pages.size := Array.size_modify.symm ▸ hi
  have hold : IsPage m.pages[i] := h _ (Array.getElem_mem hi')
  rw [Array.getElem_modify]
  split_ifs
  · exact isPage_setInPage hold _ b
  · exact hold

/-- Another byte is as it was. -/
theorem get_set_of_ne (h : m.IsPaged) (hne : address' ≠ address) (b : UInt8) :
    (m.set address b).get address' = m.get address' := by
  rw [get_eq, get_eq, pages_set, Array.getD_eq_getD_getElem?, Array.getD_eq_getD_getElem?,
    Array.getElem?_modify]
  split_ifs with hpage
  · -- a byte of the same page
    cases hold : m.pages[address' / pageBytes]? with
    | none => rfl
    | some page =>
      have hmod : address' % pageBytes ≠ address % pageBytes := by
        intro hmod
        exact hne (by rw [← Nat.div_add_mod address' pageBytes, ← hpage, hmod, Nat.div_add_mod])
      have hlt : address % pageBytes < pageBytes := Nat.mod_lt _ (by decide)
      change inPage (setInPage page _ b) _ = inPage page _
      rw [inPage_setInPage (h page (Array.mem_of_getElem? hold)) hlt, if_neg hmod]
  · rfl

/-- The byte that was written is read again. -/
theorem get_set_self (h : m.IsPaged) (hlt : address < m.size) (b : UInt8) :
    (m.set address b).get address = b := by
  have hpage : address / pageBytes < m.pages.size :=
    Nat.div_lt_of_lt_mul (by rwa [Nat.mul_comm])
  have hmod : address % pageBytes < pageBytes := Nat.mod_lt _ (by decide)
  rw [get_eq, pages_set, Array.getD_eq_getD_getElem?, Array.getElem?_modify, if_pos rfl,
    Array.getElem?_eq_getElem hpage]
  change inPage (setInPage m.pages[address / pageBytes] _ b) _ = b
  rw [inPage_setInPage (h _ (Array.getElem_mem hpage)) hmod, if_pos rfl]

/-! ### Numbers -/

theorem size_set (m : Memory) (address : Nat) (b : UInt8) : (m.set address b).size = m.size := by
  rw [size, pageCount_set, size]

theorem size_writeNat (m : Memory) (address length value : Nat) :
    (m.writeNat address length value).size = m.size := by
  rw [size, pageCount_writeNat, size]

theorem size_writeBytes (m : Memory) (address : Nat) (bytes : List UInt8) :
    (m.writeBytes address bytes).size = m.size := by
  rw [size, pageCount_writeBytes, size]

theorem IsPaged.writeNat (h : m.IsPaged) (address length value : Nat) :
    (m.writeNat address length value).IsPaged := by
  induction length generalizing m address value with
  | zero => exact h
  | succ n ih => exact ih (h.set address _) _ _

/-- A byte outside of a number that is written is as it was. -/
theorem get_writeNat_of_not_mem (h : m.IsPaged)
    (hout : address' < address ∨ address + length ≤ address') (value : Nat) :
    (m.writeNat address length value).get address' = m.get address' := by
  induction length generalizing m address value with
  | zero => rfl
  | succ n ih =>
    rw [Memory.writeNat, ih (h.set address _) (by omega), get_set_of_ne h (by omega)]

theorem readNat_congr (h : ∀ i < length, m'.get (address + i) = m.get (address + i)) :
    m'.readNat address length = m.readNat address length := by
  induction length generalizing address with
  | zero => rfl
  | succ n ih =>
    have hfirst : m'.get address = m.get address := h 0 (Nat.succ_pos n)
    have hrest : m'.readNat (address + 1) n = m.readNat (address + 1) n := ih fun i hi => by
      have hnext := h (i + 1) (Nat.succ_lt_succ hi)
      rwa [Nat.add_comm i 1, ← Nat.add_assoc] at hnext
    rw [readNat, readNat, hfirst, hrest]

/-- A number that is written is read again, as far as its bytes go. -/
theorem readNat_writeNat (h : m.IsPaged) (hle : address + length ≤ m.size) (value : Nat) :
    (m.writeNat address length value).readNat address length = value % 256 ^ length := by
  induction length generalizing m address value with
  | zero => rw [pow_zero, Nat.mod_one, readNat]
  | succ n ih =>
    have hset : (m.set address value.toUInt8).IsPaged := h.set address _
    have hfirst : ((m.set address value.toUInt8).writeNat (address + 1) n (value / 256)).get
        address = value.toUInt8 := by
      rw [get_writeNat_of_not_mem hset (by omega), get_set_self h (by omega)]
    have hle' : address + 1 + n ≤ (m.set address value.toUInt8).size := by
      rw [size_set]
      omega
    have hrest := ih hset hle' (value / 256)
    have hbyte : value.toUInt8.toNat = value % 256 := by simp
    rw [Memory.writeNat, readNat, hfirst, hrest, hbyte, pow_succ', Nat.mod_mul]

theorem readNat_writeNat_of_lt (h : m.IsPaged) (hle : address + length ≤ m.size)
    (hlt : value < 256 ^ length) :
    (m.writeNat address length value).readNat address length = value := by
  rw [readNat_writeNat h hle, Nat.mod_eq_of_lt hlt]

/-- A number is not touched by one that is written elsewhere. -/
theorem readNat_writeNat_of_disjoint (h : m.IsPaged) {length' : Nat}
    (hout : address' + length' ≤ address ∨ address + length ≤ address') (value : Nat) :
    (m.writeNat address length value).readNat address' length' = m.readNat address' length' :=
  readNat_congr fun i hi => get_writeNat_of_not_mem h (by omega) value

/-! ### Runs of bytes -/

theorem IsPaged.writeBytes (h : m.IsPaged) (address : Nat) (bytes : List UInt8) :
    (m.writeBytes address bytes).IsPaged := by
  induction bytes generalizing m address with
  | nil => exact h
  | cons b bytes ih => exact ih (h.set address b) _

/-- A byte outside of a run that is written is as it was. -/
theorem get_writeBytes_of_not_mem (h : m.IsPaged)
    (hout : address' < address ∨ address + bytes.length ≤ address') :
    (m.writeBytes address bytes).get address' = m.get address' := by
  induction bytes generalizing m address with
  | nil => rfl
  | cons b bytes ih =>
    rw [List.length_cons] at hout
    rw [Memory.writeBytes, ih (h.set address b) (by omega), get_set_of_ne h (by omega)]

theorem readList_eq (m : Memory) (address length : Nat) (rest : List UInt8) :
    m.readList address length rest = m.readBytes address length ++ rest := by
  unfold readBytes
  induction length generalizing rest with
  | zero => rfl
  | succ n ih => rw [readList, readList, ih, ih [_], List.append_assoc, List.singleton_append]

theorem readBytes_succ (m : Memory) (address length : Nat) :
    m.readBytes address (length + 1) =
      m.readBytes address length ++ [m.get (address + length)] := by
  rw [readBytes, readList, readList_eq]

theorem readBytes_congr (h : ∀ i < length, m'.get (address + i) = m.get (address + i)) :
    m'.readBytes address length = m.readBytes address length := by
  induction length with
  | zero => rfl
  | succ n ih =>
    rw [readBytes_succ, readBytes_succ, h n (Nat.lt_succ_self n),
      ih fun i hi => h i (Nat.lt_succ_of_lt hi)]

theorem readBytes_succ' (m : Memory) (address length : Nat) :
    m.readBytes address (length + 1) =
      m.get address :: m.readBytes (address + 1) length := by
  induction length with
  | zero => rfl
  | succ n ih =>
    rw [readBytes_succ, ih, readBytes_succ, Nat.add_assoc address 1 n, Nat.add_comm 1 n]
    rfl

/-- A run of bytes that is written is read again. -/
theorem readBytes_writeBytes (h : m.IsPaged) (hle : address + bytes.length ≤ m.size) :
    (m.writeBytes address bytes).readBytes address bytes.length = bytes := by
  induction bytes generalizing m address with
  | nil => rfl
  | cons b bytes ih =>
    rw [List.length_cons] at hle
    have hset : (m.set address b).IsPaged := h.set address b
    have hfirst : ((m.set address b).writeBytes (address + 1) bytes).get address = b := by
      rw [get_writeBytes_of_not_mem hset (by omega), get_set_self h (by omega)]
    have hle' : address + 1 + bytes.length ≤ (m.set address b).size := by
      rw [size_set]
      omega
    have hrest := ih hset hle'
    rw [Memory.writeBytes, List.length_cons, readBytes_succ', hfirst, hrest]

/-- A number is not touched by bytes that are written elsewhere. -/
theorem readNat_writeBytes_of_disjoint (h : m.IsPaged)
    (hout : address' + length ≤ address ∨ address + bytes.length ≤ address') :
    (m.writeBytes address bytes).readNat address' length = m.readNat address' length :=
  readNat_congr fun i hi => get_writeBytes_of_not_mem h (by omega)

/-- Bytes are not touched by a number that is written elsewhere. -/
theorem readBytes_writeNat_of_disjoint (h : m.IsPaged) {length' : Nat}
    (hout : address' + length' ≤ address ∨ address + length ≤ address') (value : Nat) :
    (m.writeNat address length value).readBytes address' length' = m.readBytes address' length' :=
  readBytes_congr fun i hi => get_writeNat_of_not_mem h (by omega) value

end ScriptSandbox.Wasm.Memory
