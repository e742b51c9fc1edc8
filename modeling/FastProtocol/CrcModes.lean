import FastProtocol.RoundTrip
import FastProtocol.Composition

namespace FastProtocol

section

variable (rt : Runtime)

/-- A payload whose CRC passes in mode V1 or V2 passes in mode V1_V2. -/
theorem validateCrc_v1v2_of_ok {crcMode headerCrc : Nat} {data : String} {decoded : Option Nat}
    (mode : crcMode = fastChecksumV1 ∨ crcMode = fastChecksumV2)
    (ok : validateCrc rt crcMode headerCrc data = .ok (decoded, none)) :
    ∃ r, validateCrc rt fastChecksumV1V2 headerCrc data = .ok (r, none) := by
  rcases validateCrc_eq_ok rt ok with ⟨-, -, legacy⟩ | ⟨-, -, correct⟩ | ⟨v1v2, -⟩
  · exact validateCrc_of_oldCrc16 legacy.symm (.inr rfl)
  · exact validateCrc_of_crc16 correct.symm (.inl rfl)
  · rcases mode with rfl | rfl <;> exact absurd v1v2 (by decide)

/-- A frame a decoder in mode V1, V2 or `undefined` decodes, a decoder in mode V1_V2 decodes to the
same status, msgid and data. -/
theorem fastMessageDecode_v1v2_of_ok {header : Header} {buffer : Buffer} {crcMode : Nat} {msg : DecodedMessage}
    (mode : crcMode = 0 ∨ crcMode = fastChecksumV1 ∨ crcMode = fastChecksumV2)
    (ok : fastMessageDecode rt header buffer crcMode = .ok (.ok msg)) :
    ∃ msg', fastMessageDecode rt header buffer fastChecksumV1V2 = .ok (.ok msg') ∧ msg'.summary = msg.summary := by
  have length : buffer.length = fpOffData + header.datalen := by
    by_contra wrong
    rw [fastMessageDecode, if_pos wrong] at ok
    cases ok
  obtain ⟨status, msgid, checked, parsed, shape⟩ := fastMessageDecode_eq_ok rt ok
  have resolved : (if crcMode = 0 then fastChecksumV1 else crcMode) = fastChecksumV1 ∨
      (if crcMode = 0 then fastChecksumV1 else crcMode) = fastChecksumV2 := by
    rcases mode with rfl | rfl | rfl <;> decide
  obtain ⟨r, passed⟩ := validateCrc_v1v2_of_ok rt resolved checked
  refine ⟨_, fastMessageDecode_of_valid rt length passed parsed (status ▸ shape), ?_⟩
  simp only [DecodedMessage.summary, status, msgid]

/-- What a decoder in mode V1, V2 or `undefined` reads of a byte string, a decoder in mode V1_V2
reads too: the same status, msgid and data for each of its messages, then possibly more; and where
the first runs short, the second runs short on the same bytes with the same messages. -/
theorem readFrames_v1v2 {crcMode : Nat} (mode : crcMode = 0 ∨ crcMode = fastChecksumV1 ∨ crcMode = fastChecksumV2)
    (b : Buffer) :
    (readFrames rt crcMode b).1.map DecodedMessage.summary <+:
        (readFrames rt fastChecksumV1V2 b).1.map DecodedMessage.summary ∧
      ∀ r, (readFrames rt crcMode b).2 = .short r →
        (readFrames rt fastChecksumV1V2 b).2 = .short r ∧
          (readFrames rt fastChecksumV1V2 b).1.map DecodedMessage.summary =
            (readFrames rt crcMode b).1.map DecodedMessage.summary := by
  induction b using readFrames.induct rt crcMode with
  | case1 b few =>
    rw [readFrames_of_lt rt crcMode few, readFrames_of_lt rt _ few]
    exact ⟨List.prefix_refl _, fun r stop => ⟨stop, rfl⟩⟩
  | case2 b fits e bad =>
    rw [readFrames_of_headerError rt crcMode (by omega) bad]
    exact ⟨⟨_, rfl⟩, fun r stop => by cases stop⟩
  | case3 b fits good short =>
    rw [readFrames_of_short rt crcMode (by omega) good short, readFrames_of_short rt _ (by omega) good short]
    exact ⟨List.prefix_refl _, fun r stop => ⟨stop, rfl⟩⟩
  | case4 b fits good whole t decoded | case5 b fits good whole t decoded =>
    rw [readFrames_of_frame rt crcMode (by omega) good (by omega), decoded]
    exact ⟨⟨_, rfl⟩, fun r stop => by cases stop⟩
  | case6 b fits good whole msg decoded ih =>
    obtain ⟨msg', decoded', same⟩ := fastMessageDecode_v1v2_of_ok rt mode decoded
    rw [readFrames_of_frame rt crcMode (by omega) good (by omega), decoded,
      readFrames_of_frame rt _ (by omega) good (by omega), decoded']
    obtain ⟨earlier, short⟩ := ih
    refine ⟨?_, fun r stop => ?_⟩
    · simp only [prependMessages, List.singleton_append, List.map_cons, same]
      exact (List.prefix_cons_inj _).mpr earlier
    · obtain ⟨stop', messages⟩ := short r stop
      refine ⟨stop', ?_⟩
      simp only [prependMessages, List.singleton_append, List.map_cons, same, messages]

end

/-- A decoder in mode V1_V2 accepts every stream a decoder in mode V1, V2 or `undefined` accepts,
however it is cut into chunks: it pushes the same status, msgid and data for each message the other
pushes, in order, and finishes with no more messages where the other finishes. -/
theorem feed_v1v2_accepts (rt : Runtime) {crcMode : Nat}
    (mode : crcMode = 0 ∨ crcMode = fastChecksumV1 ∨ crcMode = fastChecksumV2) (chunks : List Buffer) :
    (feed rt (FastMessageDecoder.new crcMode) chunks).1.map DecodedMessage.summary <+:
        (feed rt (FastMessageDecoder.new fastChecksumV1V2) chunks).1.map DecodedMessage.summary ∧
      ((feed rt (FastMessageDecoder.new crcMode) chunks).2 = .finished →
        (feed rt (FastMessageDecoder.new fastChecksumV1V2) chunks).2 = .finished ∧
          (feed rt (FastMessageDecoder.new fastChecksumV1V2) chunks).1.map DecodedMessage.summary =
            (feed rt (FastMessageDecoder.new crcMode) chunks).1.map DecodedMessage.summary) := by
  rw [feed_new, feed_new]
  obtain ⟨earlier, short⟩ := readFrames_v1v2 rt mode chunks.flatten
  refine ⟨earlier, fun finished => ?_⟩
  obtain ⟨stop, messages⟩ := short [] (Stop.atEnd_eq_finished.mp finished)
  exact ⟨by rw [stop]; rfl, messages⟩

/-- The empty `DATA` reply under its correct CRC16, which a V2 decoder accepts. -/
theorem feed_v1v2_accepts_emptyData :
    let chunks := [frameBytes fpStatusData 0 3121 (utf8Encode (stringify (.object [("d", .array [])])))]
    (feed (nodeRuntime fun _ => 0) (FastMessageDecoder.new fastChecksumV2) chunks).1.map DecodedMessage.summary <+:
        (feed (nodeRuntime fun _ => 0) (FastMessageDecoder.new fastChecksumV1V2) chunks).1.map
          DecodedMessage.summary ∧
      ((feed (nodeRuntime fun _ => 0) (FastMessageDecoder.new fastChecksumV2) chunks).2 = .finished →
        (feed (nodeRuntime fun _ => 0) (FastMessageDecoder.new fastChecksumV1V2) chunks).2 = .finished ∧
          (feed (nodeRuntime fun _ => 0) (FastMessageDecoder.new fastChecksumV1V2) chunks).1.map
              DecodedMessage.summary =
            (feed (nodeRuntime fun _ => 0) (FastMessageDecoder.new fastChecksumV2) chunks).1.map
              DecodedMessage.summary) :=
  feed_v1v2_accepts _ (.inr (.inr rfl)) _

end FastProtocol
