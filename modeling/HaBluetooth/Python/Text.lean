import HaBluetooth.Python.Values
import HaBluetooth.Support.Hexadecimal
import Mathlib.Data.List.TakeWhile

/-! The string methods that the integration uses on what users and devices send. -/

namespace HaBluetooth.Python

def isSpace (c : Char) : Bool :=
  (9 ≤ c.toNat && c.toNat ≤ 13) || (28 ≤ c.toNat && c.toNat ≤ 32) || c.toNat == 0x85 || c.toNat == 0xA0 ||
    c.toNat == 0x1680 || (0x2000 ≤ c.toNat && c.toNat ≤ 0x200A) || c.toNat == 0x2028 || c.toNat == 0x2029 ||
    c.toNat == 0x202F || c.toNat == 0x205F || c.toNat == 0x3000

def strip (s : String) : String :=
  String.ofList ((s.toList.dropWhile isSpace).reverse.dropWhile isSpace).reverse

/-- `str.partition` without the separator itself. -/
def partition (sep : Char) (s : String) : String × String :=
  (String.ofList (s.toList.takeWhile (· ≠ sep)), String.ofList ((s.toList.dropWhile (· ≠ sep)).drop 1))

def upperHex (width n : ℕ) : String := String.ofList (Support.Hexadecimal.padded width n)

def attributeError (v : Value) (name : String) : PyError :=
  ⟨.attributeError, s!"'{v.typeName}' object has no attribute '{name}'"⟩

def Value.strip : Value → Result Value
  | .str s => .ok (.str (Python.strip s))
  | v => .error (attributeError v "strip")

lemma partition_split (sep : Char) (s : String) : sep ∉ (partition sep s).1.toList ∧
    (s.toList = (partition sep s).1.toList ++ sep :: (partition sep s).2.toList ∨
      s = (partition sep s).1 ∧ (partition sep s).2 = "") := by
  rw [partition, String.toList_ofList, String.toList_ofList]
  have hhead : sep ∉ s.toList.takeWhile (· ≠ sep) := fun hm => by simpa using List.mem_takeWhile_imp hm
  refine ⟨hhead, ?_⟩
  have hsplit := @List.takeWhile_append_dropWhile _ (fun c => decide (c ≠ sep)) s.toList
  cases hrest : s.toList.dropWhile (· ≠ sep) with
  | nil =>
    rw [hrest, List.append_nil] at hsplit
    exact .inr ⟨by rw [hsplit, String.ofList_toList], rfl⟩
  | cons c rest =>
    have hc : c = sep := by
      have hne : s.toList.dropWhile (· ≠ sep) ≠ [] := by
        rw [hrest]
        exact List.cons_ne_nil _ _
      have hnot := List.head_dropWhile_not _ hne
      simp only [hrest, List.head_cons] at hnot
      simpa using hnot
    rw [hrest, hc] at hsplit
    exact .inl hsplit.symm

lemma ok_bind {α β : Type} (a : α) (f : α → Result β) : (.ok a : Result α) >>= f = f a := rfl

lemma dropWhile_spaces {spaces rest : List Char} (hs : ∀ c ∈ spaces, isSpace c = true)
    (hrest : ∀ c ∈ rest.head?, isSpace c = false) : (spaces ++ rest).dropWhile isSpace = rest := by
  rw [List.dropWhile_append_of_pos hs]
  cases rest with
  | nil => rfl
  | cons c rest => rw [List.dropWhile_cons_of_neg (by simp [hrest c rfl])]

lemma strip_padded {before text after : List Char} (hb : ∀ c ∈ before, isSpace c = true)
    (ha : ∀ c ∈ after, isSpace c = true) (ht : text ≠ []) (hspace : ∀ c ∈ text, isSpace c = false) :
    strip (String.ofList (before ++ text ++ after)) = String.ofList text := by
  have hfront : ∀ c ∈ (text ++ after).head?, isSpace c = false := by
    intro c hc
    rw [List.head?_append_of_ne_nil _ ht] at hc
    exact hspace c (List.mem_of_mem_head? hc)
  have hback : ∀ c ∈ text.reverse.head?, isSpace c = false := by
    intro c hc
    exact hspace c (List.mem_reverse.mp (List.mem_of_mem_head? hc))
  have hspaces : ∀ c ∈ after.reverse, isSpace c = true := fun c hc => ha c (List.mem_reverse.mp hc)
  rw [strip, String.toList_ofList, List.append_assoc, dropWhile_spaces hb hfront, List.reverse_append,
    dropWhile_spaces hspaces hback, List.reverse_reverse]

end HaBluetooth.Python
