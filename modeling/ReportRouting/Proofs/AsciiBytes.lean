import ReportRouting.Text.Bytes

/-!
ASCII characters in the bytes of a text.

A byte below 128 stands for the character of that code point, wherever it occurs. So a line end or
a point can be looked for among the bytes of a text as well as among its characters. Characters of
one byte are ASCII characters, so where a text is cut by a number of bytes, ASCII characters in
front of the cut can be counted instead.
-/

namespace ReportRouting.Text

theorem bytesOf_cons (c : Char) (s : List Char) :
    bytesOf (c :: s) = String.utf8EncodeChar c ++ bytesOf s :=
  List.flatMap_cons

theorem bytesOf_flatMap {α : Type} (f : α → List Char) (xs : List α) :
    bytesOf (xs.flatMap f) = xs.flatMap fun x => bytesOf (f x) :=
  List.flatMap_assoc

theorem eq_ofNat_iff {b : UInt8} {n : Nat} : b = UInt8.ofNat n ↔ b.toNat = n % 256 := by
  rw [← UInt8.toNat_inj, UInt8.toNat_ofNat']

theorem mem_utf8EncodeChar_iff {b : UInt8} (hb : b.toNat < 128) {c : Char} :
    b ∈ String.utf8EncodeChar c ↔ b.toNat = c.toNat := by
  show b ∈ String.utf8EncodeChar c ↔ b.toNat = c.val.toNat
  simp only [String.utf8EncodeChar]
  split
  · rw [List.mem_singleton, eq_ofNat_iff]
    omega
  -- In an encoding of several bytes all of them are at least 128.
  · split
    case' isFalse => split
    all_goals
      simp only [List.mem_cons, List.not_mem_nil, or_false, eq_ofNat_iff]
      omega

theorem utf8EncodeChar_of_ascii {c : Char} (hc : c.toNat < 128) :
    String.utf8EncodeChar c = [UInt8.ofNat c.toNat] :=
  if_pos (Nat.le_of_lt_succ hc)

theorem ofNat_mem_utf8EncodeChar_iff {c : Char} (hc : c.toNat < 128) {d : Char} :
    UInt8.ofNat c.toNat ∈ String.utf8EncodeChar d ↔ c = d := by
  have hbyte : (UInt8.ofNat c.toNat).toNat = c.toNat := by
    rw [UInt8.toNat_ofNat']
    exact Nat.mod_eq_of_lt (Nat.lt_trans hc (by decide))
  rw [mem_utf8EncodeChar_iff (by rw [hbyte]; exact hc), hbyte]
  exact Char.toNat_inj

theorem mem_bytesOf_iff {c : Char} (hc : c.toNat < 128) {s : List Char} :
    UInt8.ofNat c.toNat ∈ bytesOf s ↔ c ∈ s := by
  rw [bytesOf, List.mem_flatMap]
  simp only [ofNat_mem_utf8EncodeChar_iff hc, exists_eq_right']

theorem head?_bytesOf_eq_some_iff {c : Char} (hc : c.toNat < 128) {s : List Char} :
    (bytesOf s).head? = some (UInt8.ofNat c.toNat) ↔ s.head? = some c := by
  cases s with
  | nil => exact ⟨nofun, nofun⟩
  | cons d s =>
      rw [bytesOf_cons, List.head?_cons, Option.some.injEq]
      constructor
      · intro h
        have hne : String.utf8EncodeChar d ≠ [] := String.utf8EncodeChar_ne_nil
        obtain ⟨b, bytes, hbytes⟩ := List.exists_cons_of_ne_nil hne
        rw [hbytes, List.cons_append, List.head?_cons, Option.some.injEq] at h
        have hmem : UInt8.ofNat c.toNat ∈ String.utf8EncodeChar d := by
          rw [hbytes, h]
          exact List.mem_cons_self
        exact ((ofNat_mem_utf8EncodeChar_iff hc).1 hmem).symm
      · rintro rfl
        rw [utf8EncodeChar_of_ascii hc]
        rfl

/-! ### Bytes that are a text -/

theorem text?_eq_some_iff {bytes : List UInt8} {s : String} :
    text? bytes = some s ↔ bytes = bytesOf s.toList := by
  constructor
  · intro h
    rw [text?, String.fromUTF8?] at h
    split at h
    case isFalse => cases h
    case isTrue hvalid =>
      have hbytes : bytes.toByteArray = (bytesOf s.toList).toByteArray := by
        calc bytes.toByteArray
            = s.toByteArray := congrArg String.toByteArray (Option.some.inj h)
          _ = (String.ofList s.toList).toByteArray := by rw [String.ofList_toList]
          _ = (bytesOf s.toList).toByteArray := String.toByteArray_ofList
      have hdata := congrArg (fun b : ByteArray => b.data.toList) hbytes
      simpa only [List.toList_data_toByteArray] using hdata
  · rintro rfl
    rw [text?_bytesOf, String.ofList_toList]

theorem bytesOf_inj {s t : List Char} : bytesOf s = bytesOf t ↔ s = t := by
  constructor
  · intro h
    have hs := text?_bytesOf s
    rw [h, text?_bytesOf, Option.some.injEq] at hs
    exact (String.ofList_injective hs).symm
  · rintro rfl
    rfl

/-! ### Cuts between bytes -/

theorem utf8Size_eq_one_iff {c : Char} : c.utf8Size = 1 ↔ c.toNat < 128 := by
  rw [Char.utf8Size_eq_one_iff, UInt32.le_iff_toNat_le]
  exact Nat.lt_succ_iff.symm

theorem length_bytesOf_cons (c : Char) (s : List Char) :
    (bytesOf (c :: s)).length = c.utf8Size + (bytesOf s).length := by
  rw [bytesOf_cons, List.length_append, String.length_utf8EncodeChar]

theorem length_bytesOf_of_ascii {s : List Char} (hs : ∀ c ∈ s, c.toNat < 128) :
    (bytesOf s).length = s.length := by
  induction s with
  | nil => rfl
  | cons c s ih =>
      obtain ⟨hc, hs⟩ := List.forall_mem_cons.1 hs
      rw [length_bytesOf_cons, utf8Size_eq_one_iff.2 hc, ih hs, List.length_cons, Nat.add_comm]

/-- Behind the same number of bytes there is the same rest. -/
theorem eq_of_append_eq_append {front front' rest rest' : List Char}
    (h : front ++ rest = front' ++ rest')
    (hlength : (bytesOf front).length = (bytesOf front').length) : rest = rest' := by
  have hbytes := congrArg bytesOf h
  rw [bytesOf_append, bytesOf_append] at hbytes
  exact bytesOf_inj.1 (List.append_inj hbytes hlength).2

/-- Only an ASCII character ends one byte behind its front. -/
theorem toNat_lt_of_append_eq_append {front front' rest rest' : List Char} {c : Char}
    (h : front ++ c :: rest = front' ++ rest')
    (hlength : (bytesOf front').length = (bytesOf front).length + 1) : c.toNat < 128 := by
  rcases List.append_eq_append_iff.1 h with ⟨mid, rfl, hmid⟩ | ⟨mid, rfl, _⟩
  · rw [bytesOf_append, List.length_append] at hlength
    cases mid with
    | nil =>
        rw [bytesOf_nil, List.length_nil] at hlength
        omega
    | cons d mid =>
        cases hmid
        rw [length_bytesOf_cons] at hlength
        have hpos := c.utf8Size_pos
        exact utf8Size_eq_one_iff.1 (by omega)
  · rw [bytesOf_append, List.length_append] at hlength
    omega

/-- A text whose first bytes are those of ASCII characters begins with these. -/
theorem exists_eq_append_of_bytesOf_eq {s : List Char} (hs : ∀ c ∈ s, c.toNat < 128)
    {t : List Char} {bytes : List UInt8} (h : bytesOf t = bytesOf s ++ bytes) :
    ∃ rest, t = s ++ rest := by
  induction s generalizing t with
  | nil => exact ⟨t, rfl⟩
  | cons c s ih =>
      obtain ⟨hc, hs⟩ := List.forall_mem_cons.1 hs
      rw [bytesOf_cons, utf8EncodeChar_of_ascii hc, List.append_assoc, List.singleton_append] at h
      have hhead : t.head? = some c := by
        rw [← head?_bytesOf_eq_some_iff hc, h, List.head?_cons]
      obtain ⟨t, rfl⟩ := List.head?_eq_some_iff.1 hhead
      rw [bytesOf_cons, utf8EncodeChar_of_ascii hc, List.singleton_append, List.cons.injEq] at h
      obtain ⟨rest, rfl⟩ := ih hs h.2
      exact ⟨rest, rfl⟩

end ReportRouting.Text
