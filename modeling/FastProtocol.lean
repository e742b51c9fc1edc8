import FastProtocol.Basic
import FastProtocol.Json
import FastProtocol.JsonParse
import FastProtocol.Utf8
import FastProtocol.JsonRoundTrip
import FastProtocol.Crc
import FastProtocol.Runtime
import FastProtocol.Decode
import FastProtocol.Decoder
import FastProtocol.Reading
import FastProtocol.Refinement
import FastProtocol.Invariant
import FastProtocol.Composition
import FastProtocol.Encode
import FastProtocol.EncoderSpec
import FastProtocol.RoundTrip
import FastProtocol.Fallback
import FastProtocol.CrcModes
