import FastProtocol.Encode
import FastProtocol.Reading

namespace FastProtocol

/-- The data of the search's attempt `k`: the data handed in, then the data after `k`
assignments, of which only the last, of `now (k - 1)`, is left. -/
def searchAttempt (now : Nat → Nat) (data : JsonValue) : Nat → Except Thrown JsonValue
  | 0 => .ok data
  | k + 1 => setUts data (now k)

/-- Assigning the clock of iteration `k` to the data of attempt `k` gives the next attempt. -/
theorem setUts_searchAttempt {now : Nat → Nat} {data d : JsonValue} {k : Nat}
    (attempt : searchAttempt now data k = .ok d) : setUts d (now k) = searchAttempt now data (k + 1) := by
  cases k with
  | zero => cases attempt; rfl
  | succ k => exact setUts_setUts attempt (now (k + 1))

section

variable {rt : Runtime} {now : Nat → Nat} {matchingCrc : Nat}

/-- The attempts of the loop from iteration `i`, with `n` iterations left: it returns the data of
the first attempt `k` whose serialization the two packages agree on, every attempt before it
disagreeing, or the data of the attempt after the last one with the CRC it started with. -/
theorem findMatchingCrcLoop_first {data d d' : JsonValue} {crc : Nat} {dataEncoded : String} (n i : Nat)
    (attempt : searchAttempt now data i = .ok d)
    (ok : findMatchingCrcLoop rt now matchingCrc n i d (stringify d) = .ok (crc, d', dataEncoded)) :
    dataEncoded = stringify d' ∧ ∃ k, i ≤ k ∧ k ≤ i + n ∧ searchAttempt now data k = .ok d' ∧
      (∀ j, i ≤ j → j < k → ∃ dj, searchAttempt now data j = .ok dj ∧
        rt.oldCrc16 (stringify dj) ≠ rt.crc16 (stringify dj)) ∧
      (k < i + n ∧ rt.oldCrc16 dataEncoded = rt.crc16 dataEncoded ∧ crc = rt.oldCrc16 dataEncoded ∨
        k = i + n ∧ crc = matchingCrc) := by
  induction n generalizing i d with
  | zero =>
    rw [findMatchingCrcLoop] at ok
    cases ok
    exact ⟨rfl, i, le_rfl, le_rfl, attempt, fun j lower upper => absurd upper (by omega), .inr ⟨rfl, rfl⟩⟩
  | succ n ih =>
    by_cases agree : rt.oldCrc16 (stringify d) = rt.crc16 (stringify d)
    · rw [findMatchingCrcLoop_of_eq n i agree] at ok
      cases ok
      exact ⟨rfl, i, le_rfl, by omega, attempt, fun j lower upper => absurd upper (by omega),
        .inl ⟨by omega, agree, rfl⟩⟩
    · rw [findMatchingCrcLoop_of_ne n i agree] at ok
      cases set : setUts d (now i) with
      | error t => rw [set] at ok; cases ok
      | ok next =>
        rw [set] at ok
        have attempt' : searchAttempt now data (i + 1) = .ok next := (setUts_searchAttempt attempt).symm.trans set
        obtain ⟨encoded, k, lower, upper, reached, before, found⟩ := ih (i + 1) attempt' ok
        have shift : i + 1 + n = i + (n + 1) := (Nat.succ_add i n).trans (Nat.add_succ i n).symm
        rw [shift] at upper found
        refine ⟨encoded, k, Nat.le_of_succ_le lower, upper, reached, fun j lower' upper' => ?_, found⟩
        rcases Nat.eq_or_lt_of_le lower' with rfl | later
        · exact ⟨d, attempt, agree⟩
        · exact before j later upper'

end

/-- The search stops at its first attempt whose serialization the two packages agree on and
returns its legacy CRC16, every attempt before it disagreeing; attempt `k` holds in `data.m.uts`
the clock of iteration `k - 1`. Only once all 500000 attempts have disagreed does it return the old
package's CRC16 of the data object it was handed, with the data of the attempt after the last. -/
theorem findMatchingCrc_first_match {rt : Runtime} {now : Nat → Nat} {data data' : JsonValue} {crc : Nat}
    {dataEncoded : String} (ok : findMatchingCrc rt now data = .ok (crc, data', dataEncoded)) :
    dataEncoded = stringify data' ∧ ∃ k ≤ 500000, searchAttempt now data k = .ok data' ∧
      (∀ j < k, ∃ d, searchAttempt now data j = .ok d ∧ rt.oldCrc16 (stringify d) ≠ rt.crc16 (stringify d)) ∧
      (k < 500000 ∧ rt.oldCrc16 dataEncoded = rt.crc16 dataEncoded ∧ crc = rt.oldCrc16 dataEncoded ∨
        k = 500000 ∧ rt.oldCrc16Object data = .ok crc) := by
  obtain ⟨matchingCrc, start, searched⟩ := findMatchingCrc_eq_ok ok
  obtain ⟨encoded, k, -, upper, reached, before, found⟩ := findMatchingCrcLoop_first 500000 0 rfl searched
  rw [Nat.zero_add] at upper found
  refine ⟨encoded, k, upper, reached, fun j => before j (Nat.zero_le j), ?_⟩
  rcases found with matched | ⟨last, rfl⟩
  · exact .inl matched
  · exact .inr ⟨last, start⟩

/-- Under a clock at 32221 the search on `{"m":{"uts":0},"d":[]}` returns its attempt 1. -/
theorem findMatchingCrc_first_match_utsData :
    findMatchingCrc (nodeRuntime fun _ => 0) (fun _ => 32221) (utsData 0) =
        .ok (8822, utsData 32221, stringify (utsData 32221)) ∧
      stringify (utsData 32221) = stringify (utsData 32221) ∧ ∃ k ≤ 500000,
        searchAttempt (fun _ => 32221) (utsData 0) k = .ok (utsData 32221) ∧
        (∀ j < k, ∃ d, searchAttempt (fun _ => 32221) (utsData 0) j = .ok d ∧
          (nodeRuntime fun _ => 0).oldCrc16 (stringify d) ≠ (nodeRuntime fun _ => 0).crc16 (stringify d)) ∧
        (k < 500000 ∧ (nodeRuntime fun _ => 0).oldCrc16 (stringify (utsData 32221)) =
            (nodeRuntime fun _ => 0).crc16 (stringify (utsData 32221)) ∧
          8822 = (nodeRuntime fun _ => 0).oldCrc16 (stringify (utsData 32221)) ∨
          k = 500000 ∧ (nodeRuntime fun _ => 0).oldCrc16Object (utsData 0) = .ok 8822) :=
  ⟨findMatchingCrc_utsData_32221 _, findMatchingCrc_first_match (findMatchingCrc_utsData_32221 _)⟩

/-- The matching-CRC search of an encoding in mode `crcMode` under the clock `now` stops before its
last attempt: in the modes that search, one of the first 500000 attempts gives a serialization on
which both packages agree. -/
def StopsBeforeLast (rt : Runtime) (now : Nat → Nat) (crcMode : Nat) (data : JsonValue) : Prop :=
  crcMode = fastChecksumV1 ∨ crcMode = fastChecksumV1V2 →
    ∃ k < 500000, ∃ d, searchAttempt now data k = .ok d ∧ rt.oldCrc16 (stringify d) = rt.crc16 (stringify d)

/-- A search with an attempt among the first 500000 on which the packages agree does not fall back:
it returns the common CRC16 of the serialization it stops on. -/
theorem findMatchingCrc_matched {rt : Runtime} {now : Nat → Nat} {data data' d : JsonValue} {crc k : Nat}
    {dataEncoded : String} (early : k < 500000) (attempt : searchAttempt now data k = .ok d)
    (agree : rt.oldCrc16 (stringify d) = rt.crc16 (stringify d))
    (ok : findMatchingCrc rt now data = .ok (crc, data', dataEncoded)) :
    rt.oldCrc16 dataEncoded = rt.crc16 dataEncoded ∧ crc = rt.oldCrc16 dataEncoded := by
  obtain ⟨matchingCrc, -, searched⟩ := findMatchingCrc_eq_ok ok
  obtain ⟨-, stop, -, -, -, before, found⟩ := findMatchingCrcLoop_first 500000 0 rfl searched
  rcases found with ⟨-, matched⟩ | ⟨last, -⟩
  · exact matched
  · obtain ⟨dk, attempt', differ⟩ := before k (Nat.zero_le k) (by omega)
    rw [attempt] at attempt'
    cases attempt'
    exact absurd agree differ

/-- Every CRC the encoder writes is a CRC16. -/
theorem EncodedCrc.lt {rt : Runtime} {crcMode crc : Nat} {data : JsonValue} {dataEncoded : String}
    (encoded : EncodedCrc rt crcMode data crc dataEncoded) : crc < 2 ^ 16 := by
  rcases encoded with ⟨-, rfl⟩ | ⟨-, ⟨-, rfl⟩ | fallback⟩
  · exact rt.crc16_lt _
  · exact rt.oldCrc16_lt _
  · exact rt.oldCrc16Object_lt _ _ fallback

/-- What `fastMessageEncode` returns is one well-formed frame, whatever the runtime and the clock:
its header passes every check of the decoder and reads back as written, with version 1, type JSON,
the message's status and msgid, a CRC16 and the payload length, and `DLEN` covers exactly the
payload, the UTF-8 serialization of the data as the encoder left it. -/
theorem fastMessageEncode_wellFormed {rt : Runtime} {now : Nat → Nat} {msg : Message} {defaultCrcMode : Option Nat}
    {data' : JsonValue} {buf : Buffer} (ok : fastMessageEncode rt now msg defaultCrcMode = .ok (data', buf)) :
    headerError buf = none ∧ frameSize buf = buf.length ∧ buf.drop fpHeaderSz = utf8Encode (stringify data') ∧
      ∃ crc, crc < 2 ^ 16 ∧ headerOf buf =
        ⟨fpVersionCurrent, fpTypeJson, msg.status, msg.msgid.toNat, crc, (utf8Encode (stringify data')).length⟩ := by
  obtain ⟨crc, rfl, msgid_le, valid, crc_lt, length_lt, -, encoded⟩ := fastMessageEncode_ok ok
  have status_lt : msg.status < 256 := by rw [isFpStatus_iff] at valid; omega
  have msgid_lt : msg.msgid.toNat < 2 ^ 32 := by simp only [fpMsgidMax] at msgid_le; omega
  refine ⟨headerError_headerBytes _ valid msgid_le crc_lt length_lt, ?_, ?_, crc, encoded.lt,
    headerOf_headerBytes _ status_lt msgid_lt crc_lt length_lt⟩
  · rw [frameBytes, frameSize_headerBytes _ status_lt msgid_lt crc_lt length_lt, List.length_append,
      headerBytes_length]
  · rw [frameBytes, ← headerBytes_length msg.status msg.msgid.toNat crc (utf8Encode (stringify data')).length,
      List.drop_left]

set_option maxRecDepth 20000 in
/-- The V2 encoding of the empty `DATA` reply `{"d":[]}`, under its correct CRC16 3121. -/
theorem fastMessageEncode_wellFormed_emptyData :
    let msg : Message := ⟨0, fpStatusData, .object [("d", .array [])], some fastChecksumV2⟩
    let buf := frameBytes fpStatusData 0 3121 (utf8Encode (stringify msg.data))
    fastMessageEncode (nodeRuntime fun _ => 0) (fun _ => 0) msg none = .ok (msg.data, buf) ∧
      headerError buf = none ∧ frameSize buf = buf.length ∧ buf.drop fpHeaderSz = utf8Encode (stringify msg.data) ∧
      ∃ crc, crc < 2 ^ 16 ∧ headerOf buf =
        ⟨fpVersionCurrent, fpTypeJson, msg.status, msg.msgid.toNat, crc, (utf8Encode (stringify msg.data)).length⟩ := by
  have ok : fastMessageEncode (nodeRuntime fun _ => 0) (fun _ => 0)
      ⟨0, fpStatusData, .object [("d", .array [])], some fastChecksumV2⟩ none =
      .ok (.object [("d", .array [])],
        frameBytes fpStatusData 0 3121 (utf8Encode (stringify (.object [("d", .array [])])))) := rfl
  exact ⟨ok, fastMessageEncode_wellFormed ok⟩

end FastProtocol
