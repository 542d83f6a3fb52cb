import Mathlib.Data.List.TakeWhile

namespace CText

/-- The cells of a C character array, or the characters of a string. A cell
is one byte; no operation here depends on how many bits it has. -/
abbrev Text := List Char

instance : Coe String Text := ⟨String.toList⟩

def nul : Char := '\x00'

/-- The C string that starts at the first cell. -/
def cstr (cells : Text) : Text :=
  cells.takeWhile (· != nul)

def strlen (cells : Text) : Nat :=
  (cstr cells).length

theorem nul_not_mem_cstr (cells : Text) : nul ∉ cstr cells := by
  intro member
  have := List.mem_takeWhile_imp member
  simp at this

theorem strlen_le_length (cells : Text) : strlen cells ≤ cells.length :=
  (List.takeWhile_sublist _).length_le

theorem cstr_of_nulFree {t : Text} (free : nul ∉ t) : cstr t = t := by
  rw [cstr, List.takeWhile_eq_self_iff]
  intro c member
  simp only [bne_iff_ne, ne_eq]
  rintro rfl
  exact free member

theorem cstr_append_nul {t : Text} (free : nul ∉ t) (rest : Text) : cstr (t ++ nul :: rest) = t := by
  have whole := cstr_of_nulFree free
  simp only [cstr] at whole ⊢
  rw [List.takeWhile_append_of_pos, List.takeWhile_cons_of_neg, List.append_nil]
  · simp
  · exact List.takeWhile_eq_self_iff.mp whole

theorem strlen_append_nul {t : Text} (free : nul ∉ t) (rest : Text) :
    strlen (t ++ nul :: rest) = t.length := by
  rw [strlen, cstr_append_nul free]

/-- `strncpy(dst, src, n)`: at most `n` characters of the source, padded
with NULs up to `n`; the cells from `n` on keep what they held. -/
def strncpy (dst src : Text) (n : Nat) : Text :=
  (cstr src).take n ++ List.replicate (n - (cstr src).length) nul ++ dst.drop n

theorem strncpy_length {dst : Text} (src : Text) {n : Nat} (room : n ≤ dst.length) :
    (strncpy dst src n).length = dst.length := by
  simp only [strncpy, List.length_append, List.length_take, List.length_replicate, List.length_drop]
  omega

/-- The cells at and after `n` are not written. -/
theorem strncpy_drop {dst : Text} (src : Text) {n : Nat} :
    (strncpy dst src n).drop n = dst.drop n := by
  have width : ((cstr src).take n ++ List.replicate (n - (cstr src).length) nul).length = n := by
    simp only [List.length_append, List.length_take, List.length_replicate]
    omega
  rw [strncpy]
  exact List.drop_left' width

/-- An array declared `char name[size]` that holds a C string: the
terminating NUL fits and the text before it has none. -/
structure CharArray (size : Nat) where
  text : Text
  fits : text.length < size
  nulFree : nul ∉ text

namespace CharArray
variable {size : Nat}

/-- A zeroed array after `strncpy(name, src, sizeof(name) - 1)`. -/
def ofText (src : Text) (room : 0 < size) : CharArray size where
  text := (cstr src).take (size - 1)
  fits := by simp only [List.length_take]; omega
  nulFree := fun member => nul_not_mem_cstr src (List.mem_of_mem_take member)

theorem cstr_strncpy_zeroed (src : Text) (room : 0 < size) :
    cstr (strncpy (List.replicate size nul) src (size - 1)) = (ofText src room).text := by
  have tail : List.replicate (size - 1 - (cstr src).length) nul ++
      (List.replicate size nul).drop (size - 1) =
      nul :: List.replicate (size - 1 - (cstr src).length) nul := by
    rw [List.drop_replicate, show size - (size - 1) = 1 by omega, ← List.replicate_succ]
    exact List.replicate_succ'.symm
  rw [strncpy, List.append_assoc, tail]
  exact cstr_append_nul (ofText src room).nulFree _

end CharArray

/-- The cells of an array of `size` characters, terminated or not. -/
structure CharBuffer (size : Nat) where
  cells : Text
  size_eq : cells.length = size

namespace CharBuffer
variable {size : Nat}

def zeroed (size : Nat) : CharBuffer size :=
  ⟨List.replicate size nul, List.length_replicate⟩

def text (b : CharBuffer size) : Text :=
  cstr b.cells

def Terminated (b : CharBuffer size) : Prop :=
  nul ∈ b.cells

/-- `strncpy` into the array, of fewer characters than it has cells. -/
def strncpy (b : CharBuffer size) (src : Text) (n : Nat) (room : n ≤ size) : CharBuffer size :=
  ⟨CText.strncpy b.cells src n, by rw [strncpy_length src (by rw [b.size_eq]; exact room), b.size_eq]⟩

theorem text_length_le (b : CharBuffer size) : b.text.length ≤ size :=
  (List.takeWhile_sublist _).length_le.trans_eq b.size_eq

end CharBuffer

end CText
