import HaBluetooth.Protocol.PacketFormat

/-! Transmission errors within sixteen consecutive bits of a packet. An error that leaves the magic
bytes alone turns one codeword of the shift register into another only if it is a codeword itself,
and no burst as short as the register is one. -/

namespace HaBluetooth.Protocol

open Python Support ShiftRegister BitStrings

lemma generator_constant : generator.getLsbD 0 = true := by decide

lemma run_codeword {m crc : Bytes} (hc : crc.length = 2) (h : crc16Ccitt m = BigEndian.value crc) :
    run generator 0xFFFF#16 (bitString (m ++ crc)) = 0 := by
  obtain ⟨a, b, rfl⟩ := List.length_eq_two.mp hc
  have hr : run generator 0xFFFF#16 (bitString m) = load 16 (bitString [a, b]) := by
    apply BitVec.eq_of_toNat_eq
    rw [← crc16Ccitt_toNat, h, load_pair]
  rw [bitString_append, run_append, hr, run_load generator _ _ (by simp), BitVec.xor_self]
  exact (iterate_eq_zero generator_constant _).mpr rfl

lemma error_codeword {xs es : Bytes} (hl : xs.length = es.length)
    (hx : run generator 0xFFFF#16 (bitString xs) = 0)
    (he : run generator 0xFFFF#16 (bitString (xorBytes xs es)) = 0) :
    run generator 0 (bitString es) = 0 := by
  have hh := run_xor generator 0xFFFF#16 0 (bitString xs) (bitString es) (by simp [hl])
  rw [← bitString_xor, hx] at hh
  simpa [he] using hh.symm

lemma split_error {e : Bytes} {n : ℕ} (h : e.length = 2 + n + 2 + 2) :
    ∃ e₀ e₁ e₂ e₃ : Bytes, e = e₀ ++ e₁ ++ e₂ ++ e₃ ∧
      e₀.length = 2 ∧ e₁.length = n ∧ e₂.length = 2 ∧ e₃.length = 2 := by
  refine ⟨e.take 2, (e.drop 2).take n, ((e.drop 2).drop n).take 2, ((e.drop 2).drop n).drop 2, ?_, ?_⟩
  · simp only [List.append_assoc, List.take_append_drop]
  · simp only [List.length_take, List.length_drop]
    omega

lemma xorBytes_framed {h i c t e₀ e₁ e₂ e₃ : Bytes} (h₀ : h.length = e₀.length) (h₁ : i.length = e₁.length)
    (h₂ : c.length = e₂.length) :
    xorBytes (h ++ i ++ c ++ t) (e₀ ++ e₁ ++ e₂ ++ e₃) =
      xorBytes h e₀ ++ xorBytes i e₁ ++ xorBytes c e₂ ++ xorBytes t e₃ := by
  rw [xorBytes_append t e₃ (by simp [h₀, h₁, h₂]), xorBytes_append c e₂ (by simp [h₀, h₁]),
    xorBytes_append i e₁ h₀]

lemma framed_injective {h h' i i' c c' t t' : Bytes} (he : h ++ i ++ c ++ t = h' ++ i' ++ c' ++ t')
    (hh : h.length = h'.length) (hc : c.length = c'.length) (ht : t.length = t'.length) :
    h = h' ∧ i = i' ∧ c = c' ∧ t = t' := by
  obtain ⟨he₁, h₃⟩ := List.append_inj' he ht
  obtain ⟨he₂, h₂⟩ := List.append_inj' he₁ hc
  obtain ⟨h₀, h₁⟩ := List.append_inj he₂ hh
  exact ⟨h₀, h₁, h₂, h₃⟩

lemma escaping_error (l : Layout) {e : Bytes} (hlen : e.length = l.bytes.length) {r : ℕ × ℕ × Bytes}
    (hr : decodePacket (xorBytes l.bytes e) = some r) :
    ∃ e₀ e₁ e₃ : Bytes, e = e₀ ++ e₁ ++ e₃ ∧ e₀.length = 2 ∧ (∀ b ∈ e₀, b = 0) ∧ (∀ b ∈ e₃, b = 0) ∧
      run generator 0 (bitString e₁) = 0 := by
  obtain ⟨l', hl', -⟩ := exists_layout hr
  have hn : e.length = 2 + l.inner.length + 2 + 2 := by
    rw [hlen, l.bytes_length, l.inner_length]
    omega
  obtain ⟨e₀, e₁, e₂, e₃, rfl, h₀, h₁, h₂, h₃⟩ := split_error hn
  rw [Layout.bytes, Layout.bytes, xorBytes_framed (by simp [pktHeader, h₀]) h₁.symm (by rw [h₂, l.crc_length])] at hl'
  obtain ⟨hh, hi, hc, ht⟩ := framed_injective hl' (by simp [pktHeader, h₀])
    (by simp [l.crc_length, l'.crc_length, h₂]) (by simp [pktEnd, h₃])
  refine ⟨e₀, e₁ ++ e₂, e₃, by simp, h₀, xorBytes_fixed (by simp [pktHeader, h₀]) hh.symm,
    xorBytes_fixed (by simp [pktEnd, h₃]) ht.symm, ?_⟩
  apply error_codeword (by simp [h₁, h₂, l.crc_length]) (run_codeword l.crc_length l.crc_inner)
  rw [xorBytes_append _ _ h₁.symm, ← hc, ← hi]
  exact run_codeword l'.crc_length l'.crc_inner

lemma overlooked_codeword {p c f : ℕ} {payload packet e : Bytes} (henc : encodePacket p c payload f = .ok packet)
    (hlen : e.length = packet.length) (h : decodePacket (xorBytes packet e) ≠ none) :
    ∃ e₀ e₁ e₃ : Bytes, e = e₀ ++ e₁ ++ e₃ ∧ e₀.length = 2 ∧ (∀ b ∈ e₀, b = 0) ∧ (∀ b ∈ e₃, b = 0) ∧
      run generator 0 (bitString e₁) = 0 := by
  obtain ⟨l, rfl, -⟩ := encodePacket_eq_ok.mp henc
  obtain ⟨r, hr⟩ := Option.ne_none_iff_exists'.mp h
  exact escaping_error l hlen hr

theorem burst_detected {p c f s : ℕ} {payload packet e : Bytes}
    (henc : encodePacket p c payload f = .ok packet) (hlen : e.length = packet.length) (hne : ∃ b ∈ e, b ≠ 0)
    (hwin : ∀ i, (bitString e)[i]? = some true → s ≤ i ∧ i < s + 16) :
    decodePacket (xorBytes packet e) = none := by
  by_contra hr
  obtain ⟨e₀, e₁, e₃, rfl, h₀, hz₀, hz₃, hrun⟩ := overlooked_codeword henc hlen hr
  have hwin₁ : ∀ i, (bitString e₁)[i]? = some true → s - 16 ≤ i ∧ i < s - 16 + 16 := by
    intro i hi
    have hlt : i < (bitString e₁).length := (List.getElem?_eq_some_iff.mp hi).1
    have hat : (bitString (e₀ ++ e₁ ++ e₃))[16 + i]? = some true := by
      rw [bitString_append, bitString_append, List.getElem?_append_left (by simp [h₀] at hlt ⊢; omega),
        List.getElem?_append_right (by simp [h₀])]
      simpa [h₀] using hi
    have hw := hwin _ hat
    omega
  have hz₁ := bitString_zero (burst_zero generator_constant hwin₁ hrun)
  obtain ⟨b, hb, hb0⟩ := hne
  rcases List.mem_append.mp hb with hb | hb
  · rcases List.mem_append.mp hb with hb | hb
    · exact hb0 (hz₀ b hb)
    · exact hb0 (hz₁ b hb)
  · exact hb0 (hz₃ b hb)

theorem burst_detected_across_crc :
    decodePacket (xorBytes [0xAA, 0xBB, 0, 0, 0, 1, 0x10, 0, 0, 0, 0x80, 0xC8, 0xCC, 0xDD]
      [0, 0, 0, 0, 0, 0, 0, 0, 0, 0x01, 0x10, 0x02, 0, 0]) = none := by
  refine burst_detected (s := 79) encodePacket_reqAreas rfl ⟨0x01, by decide, by decide⟩ fun i hi => ?_
  have hlt : i < 112 := (List.getElem?_eq_some_iff.mp hi).1
  have hall : ∀ i < 112, (bitString [0, 0, 0, 0, 0, 0, 0, 0, 0, 0x01, 0x10, 0x02, 0, 0])[i]? = some true →
      79 ≤ i ∧ i < 79 + 16 := by decide +kernel
  exact hall i hlt hi

end HaBluetooth.Protocol
