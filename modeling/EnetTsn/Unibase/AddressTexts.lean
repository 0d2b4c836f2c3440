import EnetTsn.Uniconf.ValueLists

namespace EnetTsn.Unibase

open EnetTsn.Library EnetTsn.Uniconf

def ubByte2hexstr (a : UInt8) : List UInt8 :=
  [a >>> 4, a &&& 0xF].map fun d => if 10 ≤ d then d - 10 + 65 else d + 48

/-- The loop of `ub_bmac2smac` and `ub_bsid2ssid`. -/
def octetsText : List UInt8 → List UInt8
  | [] => []
  | [octet] => ubByte2hexstr octet
  | octet :: rest => ubByte2hexstr octet ++ 58 :: octetsText rest

def ubBmac2smac (bmac : Vector UInt8 6) : List UInt8 := octetsText bmac.toList

def ubBsid2ssid (bsid : Vector UInt8 8) : List UInt8 := octetsText bsid.toList

def zeroFilled (size : Nat) (octets : List UInt8) : List UInt8 :=
  octets ++ List.replicate (size - octets.length) 0

/-- `ub_smac2bmac`: a text whose first octet ends at another delimiter is read with hyphens. -/
def ubSmac2bmac (smac : List UInt8) : List UInt8 :=
  let octets := ubHexstr2barray 58 6 smac
  zeroFilled 6 (if octets.length = 1 then ubHexstr2barray 45 6 smac else octets)

def ubSsid2bsid (ssid : List UInt8) : List UInt8 :=
  let octets := ubHexstr2barray 58 8 ssid
  let address := ubHexstr2barray 45 6 ssid
  zeroFilled 8 (if octets.length = 1 then
    if address.length = 6 then address ++ ubHexstr2barray 45 2 (ssid.drop 18) else address
    else octets)

theorem ubByte2hexstr_eq (octet : UInt8) : ubByte2hexstr octet = numeral 16 2 octet.toNat := by
  have all : ∀ octet : Fin 256, ubByte2hexstr (UInt8.ofNat octet) =
      numeral 16 2 (UInt8.ofNat octet).toNat := by decide +kernel
  simpa using all ⟨octet.toNat, octet.toNat_lt⟩

theorem octetsText_eq (octets : List UInt8) : octetsText octets = hexText 58 octets := by
  induction octets with
  | nil => rfl
  | cons octet rest ih =>
    cases rest with
    | nil => exact ubByte2hexstr_eq octet
    | cons second later =>
      rw [octetsText, ih, ubByte2hexstr_eq, hexText_cons]
      simp

theorem read_first (octet second : UInt8) (later rest : List UInt8) :
    ubHexstr2barray 58 (len + 1) (hexText 45 (octet :: second :: later) ++ rest) = [octet] := by
  have read : ubHexstr2barray 58 (len + 1)
      (hexText 58 [octet] ++ 45 :: (hexText 45 (second :: later) ++ rest)) = [octet] :=
    ubHexstr2barray_hexText rfl (List.cons_ne_nil _ _) (by simp) (stops_cons rfl _) (by simp)
  rwa [hexText_cons, List.append_assoc, List.cons_append]

theorem read_all (noDigit : digitOf delim = none) (filled : item ≠ []) (short : item.length ≤ len) :
    ubHexstr2barray delim len (hexText delim item) = item := by
  have read : ubHexstr2barray delim len (hexText delim item ++ []) = item :=
    ubHexstr2barray_hexText noDigit filled short stops_nil (by simp)
  rwa [List.append_nil] at read

theorem smac_read (filled : item ≠ []) (short : item.length ≤ 6) (known : delim = 58 ∨ delim = 45) :
    ubSmac2bmac (hexText delim item) = zeroFilled 6 item := by
  have colon : ubHexstr2barray 58 6 (hexText 58 item) = item := read_all rfl filled short
  have hyphen : ubHexstr2barray 45 6 (hexText 45 item) = item := read_all rfl filled short
  cases item with
  | nil => exact absurd rfl filled
  | cons octet rest =>
    cases rest with
    | nil =>
      have same : hexText delim [octet] = hexText 58 [octet] := rfl
      have other : hexText 58 [octet] = hexText 45 [octet] := rfl
      rw [ubSmac2bmac, same, colon, other, hyphen]
      rfl
    | cons second later =>
      rcases known with rfl | rfl
      · rw [ubSmac2bmac, colon]
        exact congrArg _ (if_neg (by simp))
      · have first : ubHexstr2barray 58 6 (hexText 45 (octet :: second :: later) ++ []) = [octet] :=
          read_first octet second later []
        rw [List.append_nil] at first
        rw [ubSmac2bmac, first, hyphen]
        rfl

theorem zeroFilled_full (full : item.length = size) : zeroFilled size item = item := by
  rw [zeroFilled, full, Nat.sub_self, List.replicate_zero, List.append_nil]

theorem address_texts_round_trip (bmac : Vector UInt8 6) (bsid : Vector UInt8 8) :
    ubSmac2bmac (ubBmac2smac bmac) = bmac.toList ∧
      ubSmac2bmac (hexText 45 bmac.toList) = bmac.toList ∧
      ubSsid2bsid (ubBsid2ssid bsid) = bsid.toList ∧
      ubSsid2bsid (streamIdText bsid.toList) = bsid.toList := by
  have six : bmac.toList.length = 6 := by simp
  have eight : bsid.toList.length = 8 := by simp
  have filled : bmac.toList ≠ [] := List.ne_nil_of_length_pos (by omega)
  refine ⟨?_, ?_, ?_, ?_⟩
  · rw [ubBmac2smac, octetsText_eq, smac_read filled (by omega) (.inl rfl), zeroFilled_full six]
  · rw [smac_read filled (by omega) (.inr rfl), zeroFilled_full six]
  · have read : ubHexstr2barray 58 8 (hexText 58 bsid.toList) = bsid.toList :=
      read_all rfl (List.ne_nil_of_length_pos (by omega)) eight.le
    rw [ubBsid2ssid, octetsText_eq, ubSsid2bsid, read]
    exact (congrArg _ (if_neg (by omega))).trans (zeroFilled_full eight)
  · obtain ⟨address, _, others⟩ := streamIdText_read eight
    have alone : (ubHexstr2barray 58 8 (streamIdText bsid.toList)).length = 1 := by
      generalize bsid.toList = item at eight
      rcases item with _ | ⟨octet, _ | ⟨second, later⟩⟩
      · cases eight
      · cases eight
      · exact congrArg List.length (read_first octet second (later.take 4) _)
    have start : (bsid.toList.take 6).length = 6 := by
      rw [List.length_take, eight]
      rfl
    rw [ubSsid2bsid]
    simp only [alone, address, start, others, if_true, List.take_append_drop]
    exact zeroFilled_full eight

end EnetTsn.Unibase
