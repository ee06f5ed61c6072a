import Buzz.Lib.PrefixCode

/-!
Tagged fields with lengths.

A field is a tag, the length of its value as eight bytes and the value.  Fields whose lengths fit
into the eight bytes can be read off the front, so that a sequence of them is determined by its
bytes (`tlvs_inj`).
-/

namespace Buzz.Lib

open List

/-! ### Numbers as bytes -/

/-- The last `w` bytes of a number, most significant first. -/
def beBytes : ℕ → ℕ → List UInt8
  | 0, _ => []
  | w + 1, n => beBytes w (n / 256) ++ [UInt8.ofNat (n % 256)]

@[simp] lemma length_beBytes (w n : ℕ) : (beBytes w n).length = w := by
  induction w generalizing n with
  | zero => rfl
  | succ w ih => simp [beBytes, ih]

lemma beBytes_inj {w n m : ℕ} (hn : n < 256 ^ w) (hm : m < 256 ^ w)
    (h : beBytes w n = beBytes w m) : n = m := by
  refine eq_of_digits_eq length_beBytes (fun _ _ => rfl) ?_ hn hm h
  intro i hi j hj hbyte
  have hnat := congrArg UInt8.toNat hbyte
  simp only [UInt8.toNat_ofNat'] at hnat
  omega

/-! ### Fields -/

def tlv (tag : UInt8) (value : List UInt8) : List UInt8 := tag :: beBytes 8 value.length ++ value

def tlvs (fields : List (UInt8 × List UInt8)) : List UInt8 := fields.flatMap fun f => tlv f.1 f.2

lemma tlv_split {tag tag' : UInt8} {value value' s t : List UInt8}
    (hfits : value.length < 256 ^ 8) (hfits' : value'.length < 256 ^ 8)
    (h : tlv tag value ++ s = tlv tag' value' ++ t) : tag = tag' ∧ value = value' ∧ s = t := by
  simp only [tlv, cons_append, append_assoc] at h
  obtain ⟨htag, hrest⟩ := cons.inj h
  obtain ⟨hlen, hvals⟩ := append_inj hrest (by simp)
  obtain ⟨hval, hst⟩ := append_inj hvals (beBytes_inj hfits hfits' hlen)
  exact ⟨htag, hval, hst⟩

lemma length_le_tlvs {fields : List (UInt8 × List UInt8)} {field : UInt8 × List UInt8}
    (h : field ∈ fields) : field.2.length ≤ (tlvs fields).length := by
  obtain ⟨front, back, rfl⟩ := append_of_mem h
  simp only [tlvs, tlv, flatMap_append, flatMap_cons, length_append, length_cons]
  omega

/-- **A sequence of fields is determined by its bytes.** -/
theorem tlvs_inj {fields fields' : List (UInt8 × List UInt8)}
    (hfits : ∀ f ∈ fields, f.2.length < 256 ^ 8) (hfits' : ∀ f ∈ fields', f.2.length < 256 ^ 8)
    (h : tlvs fields = tlvs fields') : fields = fields' := by
  induction fields generalizing fields' with
  | nil =>
    cases fields' with
    | nil => rfl
    | cons field' fields' => simp [tlvs, tlv] at h
  | cons field fields ih =>
    cases fields' with
    | nil => simp [tlvs, tlv] at h
    | cons field' fields' =>
      simp only [tlvs, flatMap_cons] at h
      obtain ⟨htag, hval, hrest⟩ := tlv_split (hfits _ mem_cons_self) (hfits' _ mem_cons_self) h
      have htail : fields = fields' := ih (fun f hf => hfits f (mem_cons_of_mem _ hf))
          (fun f hf => hfits' f (mem_cons_of_mem _ hf)) hrest
      rw [htail, Prod.ext htag hval]

end Buzz.Lib
