import SchemaDocs.Proofs.Wire.Records
/-!
# Requests read back

A request is read as it was written, with whatever is absent or empty in it, as long as its
messages are not nested too deep.  What is read from other bytes, with its numbers in another form,
its fields in another order or fields in between that the schema does not know, is a request that
can be written, and the bytes that are then written stand for the same request.
-/

namespace SchemaDocs.GenerateRequest

open Wire

/-- A request whose bytes a word of 64 bits can count is read as it was written exactly if its levels
are within the limit, and those of every request that was read from some bytes are. -/
theorem requests_read_as_written {request : GenerateRequest}
    (hlength : request.encode.length < 2 ^ 64) :
    (decode request.encode = .ok request ↔ request.levels ≤ nestingLimit) ∧
      ∀ bytes, decode bytes = .ok request → decode request.encode = .ok request := by
  refine ⟨⟨levels_of_decode, fun hlevels => decode_encode hlevels hlength⟩, ?_⟩
  intro bytes hdecode
  exact decode_encode (levels_of_decode hdecode) hlength

/-- A request with options that were not interpreted, a negative number, texts that are absent and
texts that are empty is read as it was written, and also if a field of an unknown number stands
before it. -/
theorem options_read_as_written :
    let option : UninterpretedOption :=
      { name := [⟨"", true⟩, ⟨"key", false⟩], identifierValue := some ""
        negativeIntValue := some (-1), doubleValue := some ⟨0x7ff8000000000001⟩
        stringValue := some [0, 255] }
    let location : Location := { path := [4, 0, -1], leading := some "", detached := [""] }
    let inner : MessageDescriptor := { name := none, nested := [{ name := some "" }] }
    let file : FileDescriptor :=
      { name := some "a.proto", messages := [{ name := some "A", nested := [inner] }]
        options := some { uninterpreted := [option] }
        sourceInfo := some ⟨[location]⟩, publicDependencies := [-1, 0] }
    let request : GenerateRequest :=
      { filesToGenerate := ["a.proto"], parameter := some "", files := [file] }
    let bytes : Bytes := [0xa2, 0x06, 0x01, 0x00] ++ request.encode
    request.encode.length < 2 ^ 64 ∧ decode request.encode = .ok request ∧
      decode bytes = .ok request := by
  intro option location inner file request bytes
  have hlength : request.encode.length < 2 ^ 64 := by decide +kernel
  have hread : decode request.encode = .ok request :=
    (requests_read_as_written hlength).1.2 (by decide +kernel)
  have hbytes : (decode bytes).toOption.map encode = some request.encode := by decide +kernel
  cases hdecode : decode bytes with
  | error cause => simp [hdecode, Except.toOption] at hbytes
  | ok other =>
      have hencode : other.encode = request.encode := by
        rw [hdecode] at hbytes
        exact Option.some.inj hbytes
      have hagain : decode other.encode = .ok other :=
        (requests_read_as_written (hencode ▸ hlength)).2 bytes hdecode
      rw [hencode, hread, Except.ok.injEq] at hagain
      exact ⟨hlength, hread, hagain ▸ rfl⟩

end SchemaDocs.GenerateRequest
