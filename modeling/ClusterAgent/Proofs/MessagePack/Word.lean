import ClusterAgent.MessagePack.Writer
import ClusterAgent.Proofs.MessagePack.Reader
import ClusterAgent.Proofs.Text.Utf8
import Mathlib.Algebra.Group.Nat.Defs
import Mathlib.Data.List.Induction

/-! Words of a fixed width: the writer's bytes of a number read back as that number. -/
namespace ClusterAgent.MessagePack

open Reader

@[simp] theorem wordBytes_length (width n : Nat) : (wordBytes width n).length = width := by
  induction width generalizing n with
  | zero => rfl
  | succ width ih => simp [wordBytes, ih]

theorem bigEndian_concat (bs : List UInt8) (b : UInt8) :
    bigEndian (bs ++ [b]) = bigEndian bs * 0x100 + b.toNat := by
  simp [bigEndian]

/-- Bytes that do not fit the width are dropped. -/
theorem bigEndian_wordBytes (width n : Nat) :
    bigEndian (wordBytes width n) = n % 0x100 ^ width := by
  induction width generalizing n with
  | zero => simp [wordBytes, bigEndian, Nat.mod_one]
  | succ width ih =>
    rw [wordBytes, bigEndian_concat, ih, Utf8.toNat_byte (Nat.mod_lt n (by decide)), Nat.pow_succ',
      Nat.mod_mul]
    omega

theorem bigEndian_lt (bs : List UInt8) : bigEndian bs < 0x100 ^ bs.length := by
  induction bs using List.reverseRecOn with
  | nil => simp [bigEndian]
  | append_singleton bs b ih =>
    have hb : b.toNat < 0x100 := b.toNat_lt
    rw [bigEndian_concat, List.length_append, List.length_singleton, Nat.pow_succ]
    omega

/-- A wider number is read by its last bytes. -/
theorem readWord_takes_mod (width n : Nat) :
    (readWord width).Takes (wordBytes width n) (n % 0x100 ^ width) := by
  have hbytes := takeBytes_takes (wordBytes width n)
  rw [wordBytes_length] at hbytes
  have := hbytes.bind_pure bigEndian
  rwa [bigEndian_wordBytes] at this

theorem readWord_takes {width n : Nat} (h : n < 0x100 ^ width) :
    (readWord width).Takes (wordBytes width n) n := by
  have := readWord_takes_mod width n
  rwa [Nat.mod_eq_of_lt h] at this

theorem readWord_extends (width : Nat) : (readWord width).Extends (readWord width) :=
  (takeBytes_extends width).bind fun bs => .pure (bigEndian bs)

theorem readWord_yields (width : Nat) : (readWord width).Yields fun n => n < 0x100 ^ width := by
  refine (takeBytes_yields width).bind fun bs hbs => .pure ?_
  rw [← hbs]
  exact bigEndian_lt bs

end ClusterAgent.MessagePack
