import Mathlib.Algebra.Order.Ring.Nat
import Mathlib.Data.List.Basic

/-! Records of fixed size in a string of octets: raw octets and unsigned numbers, the most
significant octet first, one field behind the other. -/

/-- How values are written in a fixed number of octets and read back from them. -/
structure FixedLayout (α : Type) where
  size : ℕ
  read : List UInt8 → α
  write : α → List UInt8
  Fits : α → Prop
  length_write : ∀ a, Fits a → (write a).length = size
  read_write : ∀ a, Fits a → read (write a) = a

namespace FixedLayout
variable {α β : Type}

/-- The number that the octets stand for. -/
def valueOf (octets : List UInt8) : ℕ := octets.foldl (fun n octet => n*256+octet.toNat) 0

/-- The last octets of a number. -/
def octetsOf : ℕ → ℕ → List UInt8
  | 0, _ => []
  | width+1, n => octetsOf width (n/256) ++ [UInt8.ofNat n]

theorem valueOf_concat (octets : List UInt8) (octet : UInt8) :
    valueOf (octets ++ [octet]) = valueOf octets*256+octet.toNat := by
  rw [valueOf, List.foldl_append]
  rfl

theorem valueOf_singleton (octet : UInt8) : valueOf [octet] = octet.toNat :=
  (valueOf_concat [] octet).trans (Nat.zero_add _)

theorem length_octetsOf (width n : ℕ) : (octetsOf width n).length = width := by
  induction width generalizing n with
  | zero => rfl
  | succ width ih => rw [octetsOf, List.length_append, ih, List.length_singleton]

theorem valueOf_octetsOf {width n : ℕ} (h : n < 256^width) : valueOf (octetsOf width n) = n := by
  induction width generalizing n with
  | zero =>
    rw [pow_zero] at h
    exact (Nat.lt_one_iff.mp h).symm
  | succ width ih =>
    have hhigh : n/256 < 256^width := by
      apply Nat.div_lt_of_lt_mul
      rwa [pow_succ, mul_comm] at h
    rw [octetsOf, valueOf_concat, ih hhigh, UInt8.toNat_ofNat']
    omega

def raw (size : ℕ) : FixedLayout (List UInt8) where
  size := size
  read := id
  write := id
  Fits octets := octets.length = size
  length_write _ h := h
  read_write _ _ := rfl

def unsigned (width : ℕ) : FixedLayout ℕ where
  size := width
  read := valueOf
  write := octetsOf width
  Fits n := n < 256^width
  length_write n _ := length_octetsOf width n
  read_write _ h := valueOf_octetsOf h

section Sequence
variable (a : FixedLayout α) (b : FixedLayout β)

theorem seq_length {p : α × β} (h : a.Fits p.1 ∧ b.Fits p.2) :
    (a.write p.1 ++ b.write p.2).length = a.size+b.size := by
  rw [List.length_append, a.length_write _ h.1, b.length_write _ h.2]

theorem seq_read {p : α × β} (h : a.Fits p.1 ∧ b.Fits p.2) :
    (a.read ((a.write p.1 ++ b.write p.2).take a.size),
      b.read ((a.write p.1 ++ b.write p.2).drop a.size)) = p := by
  rw [List.take_left' (a.length_write _ h.1), List.drop_left' (a.length_write _ h.1),
    a.read_write _ h.1, b.read_write _ h.2]

/-- One record behind the other. -/
def seq : FixedLayout (α × β) where
  size := a.size+b.size
  read octets := (a.read (octets.take a.size), b.read (octets.drop a.size))
  write p := a.write p.1 ++ b.write p.2
  Fits p := a.Fits p.1 ∧ b.Fits p.2
  length_write _ h := seq_length a b h
  read_write _ h := seq_read a b h

end Sequence

/-- `struct.unpack`, which asks for exactly as many octets as the record has. -/
def unpack (layout : FixedLayout α) (octets : List UInt8) : Except String α :=
  if octets.length = layout.size then .ok (layout.read octets)
  else .error s!"unpack requires a buffer of {layout.size} bytes"

theorem ok_bind (x : α) (f : α → Except String β) : (Except.ok x >>= f) = f x := rfl

theorem error_bind (e : String) (f : α → Except String β) :
    ((Except.error e : Except String α) >>= f) = .error e := rfl

/-- A slice of that many octets is always read. -/
theorem unpack_take (layout : FixedLayout α) {octets : List UInt8}
    (h : layout.size ≤ octets.length) :
    layout.unpack (octets.take layout.size) = .ok (layout.read (octets.take layout.size)) := by
  rw [unpack, if_pos (List.length_take_of_le h)]

end FixedLayout
