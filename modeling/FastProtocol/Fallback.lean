import FastProtocol.RoundTrip

namespace FastProtocol

theorem validateCrc_of_neither {rt : Runtime} {crc : Nat} {dataEncoded : String}
    (legacy : rt.oldCrc16 dataEncoded ≠ crc) (correct : rt.crc16 dataEncoded ≠ crc) :
    validateCrc rt fastChecksumV1V2 crc dataEncoded =
      .ok (none, some (crcValidationError fastChecksumV1V2 crc (some (rt.oldCrc16 dataEncoded))
        (some (rt.crc16 dataEncoded)))) := by
  simp [validateCrc, fastChecksumV1, fastChecksumV1V2, legacy, correct]

/-- Under a clock stuck at `uts` for which the request's serialization is one the packages disagree
on, the V1 client's encoding of `utsRequest` carries the fallback CRC. -/
theorem fastMessageEncode_utsRequest (oldCrc16Object : JsonValue → UInt16) {uts : Nat} {data : JsonValue}
    (first : utsRequest.data = data ∨ setUts utsRequest.data uts = .ok data) (fixed : setUts data uts = .ok data)
    (differ : (nodeRuntime oldCrc16Object).oldCrc16 (stringify data) ≠ (nodeRuntime oldCrc16Object).crc16 (stringify data))
    (start : (nodeRuntime oldCrc16Object).oldCrc16 (stringify utsRequest.data) ≠
      (nodeRuntime oldCrc16Object).crc16 (stringify utsRequest.data))
    (length_lt : (utf8Encode (stringify data)).length < 2 ^ 32) :
    fastMessageEncode (nodeRuntime oldCrc16Object) (fun _ => uts) utsRequest (some fastChecksumV1) =
      .ok (data, frameBytes fpStatusData 0 (oldCrc16Object utsRequest.data).toNat (utf8Encode (stringify data))) := by
  have searched : findMatchingCrc (nodeRuntime oldCrc16Object) (fun _ => uts) utsRequest.data =
      .ok ((oldCrc16Object utsRequest.data).toNat, data, stringify data) := by
    rw [findMatchingCrc_of_ok rfl]
    rcases first with same | set
    · rw [← same] at fixed differ ⊢
      exact findMatchingCrcLoop_stuck fixed differ 500000 0
    · rw [findMatchingCrcLoop_of_set 499999 0 start set]
      exact findMatchingCrcLoop_stuck fixed differ 499999 (0 + 1)
  exact fastMessageEncode_of_search (by decide) rfl (by decide) rfl (.inl rfl) searched
    ((oldCrc16Object utsRequest.data).val.isLt.trans (by decide)) length_lt

/-- When the search for `utsRequest` under a clock stuck at `uts` ends on a serialization whose two
CRC16s differ from each other and from the old package's CRC16 of the data object, the V1 client's
encoding carries that fallback CRC and a V1_V2 decoder rejects it. -/
theorem utsRequest_rejected (oldCrc16Object : JsonValue → UInt16) {uts legacyCrc correctCrc : Nat}
    {data : JsonValue} (first : utsRequest.data = data ∨ setUts utsRequest.data uts = .ok data)
    (fixed : setUts data uts = .ok data)
    (legacy : (nodeRuntime oldCrc16Object).oldCrc16 (stringify data) = legacyCrc)
    (correct : (nodeRuntime oldCrc16Object).crc16 (stringify data) = correctCrc) (differ : legacyCrc ≠ correctCrc)
    (start : (nodeRuntime oldCrc16Object).oldCrc16 (stringify utsRequest.data) ≠
      (nodeRuntime oldCrc16Object).crc16 (stringify utsRequest.data))
    (missLegacy : legacyCrc ≠ (oldCrc16Object utsRequest.data).toNat)
    (missCorrect : correctCrc ≠ (oldCrc16Object utsRequest.data).toNat)
    (length_lt : (utf8Encode (stringify data)).length < 2 ^ 32) :
    ∃ data' buf, fastMessageEncode (nodeRuntime oldCrc16Object) (fun _ => uts) utsRequest
        (some fastChecksumV1) = .ok (data', buf) ∧
      ∃ e, feed (nodeRuntime oldCrc16Object) (FastMessageDecoder.new fastChecksumV1V2) [buf] = ([], .failed e) ∧
        e.fastReason = "bad_crc" := by
  have checked : validateCrc (nodeRuntime oldCrc16Object)
      (if fastChecksumV1V2 = 0 then fastChecksumV1 else fastChecksumV1V2) (oldCrc16Object utsRequest.data).toNat
      ((nodeRuntime oldCrc16Object).utf8Decode (utf8Encode (stringify data))) =
      .ok (none, some (crcValidationError fastChecksumV1V2 (oldCrc16Object utsRequest.data).toNat
        (some legacyCrc) (some correctCrc))) := by
    rw [if_neg (by decide), nodeRuntime_utf8Decode, utf8Decode_utf8Encode, ← legacy, ← correct]
    exact validateCrc_of_neither (by rw [legacy]; exact missLegacy) (by rw [correct]; exact missCorrect)
  exact ⟨_, _, fastMessageEncode_utsRequest oldCrc16Object first fixed (by rw [legacy, correct]; exact differ)
      start length_lt,
    _, feed_frameBytes_of_bad_crc _ fastChecksumV1V2 (show isFpStatus fpStatusData = true from rfl) (by decide)
      ((oldCrc16Object utsRequest.data).val.isLt.trans (by decide)) length_lt checked, rfl⟩

set_option maxRecDepth 20000 in
/-- The mirror guarantee fails through the fallback of the search: whatever the old package makes of
a data object, under one of two clocks stuck at a value the V1 client's request carries a CRC16 that
a V1_V2 decoder rejects, so the request never reaches the dual-mode peer. -/
theorem mirror_fallback_rejected (oldCrc16Object : JsonValue → UInt16) :
    ∃ uts data' buf, fastMessageEncode (nodeRuntime oldCrc16Object) (fun _ => uts) utsRequest
        (some fastChecksumV1) = .ok (data', buf) ∧
      ∃ e, feed (nodeRuntime oldCrc16Object) (FastMessageDecoder.new fastChecksumV1V2) [buf] = ([], .failed e) ∧
        e.fastReason = "bad_crc" := by
  have bytes1 : utf8Encode (stringify (utsData 1)) =
      [123, 34, 109, 34, 58, 123, 34, 117, 116, 115, 34] ++ [58, 49, 125, 44, 34, 100, 34, 58, 91, 93, 125] := rfl
  have legacy0 : (nodeRuntime oldCrc16Object).oldCrc16 (stringify utsRequest.data) = 10005 :=
    oldCrc16_utsData_zero oldCrc16Object
  have correct0 : (nodeRuntime oldCrc16Object).crc16 (stringify utsRequest.data) = 9644 :=
    crc16_utsData_zero oldCrc16Object
  have legacy1 : (nodeRuntime oldCrc16Object).oldCrc16 (stringify (utsData 1)) = 18512 := by
    rw [nodeRuntime_oldCrc16, utf16LowBytes_of_ascii (by decide), bytes1, crc16Xmodem_append crc16Xmodem_utsFront]
    decide
  have correct1 : (nodeRuntime oldCrc16Object).crc16 (stringify (utsData 1)) = 57597 := by
    rw [nodeRuntime_crc16, bytes1, crc16Arc_append crc16Arc_utsFront]; decide
  have start : (nodeRuntime oldCrc16Object).oldCrc16 (stringify utsRequest.data) ≠
      (nodeRuntime oldCrc16Object).crc16 (stringify utsRequest.data) := by
    rw [legacy0, correct0]; decide
  by_cases hit : (oldCrc16Object utsRequest.data).toNat = 10005 ∨ (oldCrc16Object utsRequest.data).toNat = 9644
  · exact ⟨1, utsRequest_rejected oldCrc16Object (.inr (setUts_utsData 0 1)) rfl legacy1 correct1 (by decide)
      start (by omega) (by omega) (by rw [bytes1]; decide)⟩
  · exact ⟨0, utsRequest_rejected oldCrc16Object (.inl rfl) rfl legacy0 correct0 (by decide)
      start (by omega) (by omega) (by rw [show utsRequest.data = utsData 0 from rfl, utf8Encode_utsData_zero]; decide)⟩

end FastProtocol
