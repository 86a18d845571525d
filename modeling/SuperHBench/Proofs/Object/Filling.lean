import SuperHBench.Proofs.Image.Placement
import SuperHBench.Proofs.Object.Invariants

/-! # Data of decoded sections

Sections that come out of a file got their data by `push` alone. -/

namespace SuperHBench

open Decoder

theorem Section.Filled.of_grows {part next : Section} (filled : part.Filled)
    (grows : part.Grows next) : next.Filled := by
  cases grows with
  | push fragment pushed => exact filled.push pushed
  | beside same => exact filled.beside same

namespace Decoder

theorem lasting_filled : Lasting (Decoder.All Section.Filled) Section.Filled where
  collecting _ all _ := all
  moving _ all := all
  beginning := @upholds_unit_beginChunk (∀ unit, · = some unit → unit.All Section.Filled)
  ending _ all := all
  delivering := @upholds_unit_spanningByte (∀ unit, · = some unit → unit.All Section.Filled)
  all := id
  blank := .blank
  growing grows filled := filled.of_grows grows

theorem unit_of_run_finish {decoder after : Decoder} {file : ObjectFile}
    (finished : finish.run decoder = .ok file after) : after.unit = some file.unit := by
  rw [finish, run_get_bind] at finished
  split at finished
  · cases finished
  · cases finished
  · rename_i module unit _ found
    cases finished
    exact found

theorem unit_of_run_decodeFile {decoder after : Decoder} {file : ObjectFile}
    (ran : decodeFile.run decoder = .ok file after) : after.unit = some file.unit := by
  rw [decodeFile, run_get_bind, EStateM.run_bind] at ran
  split at ran
  · exact unit_of_run_finish ran
  · cases ran

end Decoder

theorem ObjectFile.filled_of_decode {bytes : List UInt8} {file : ObjectFile}
    (decoded : ObjectFile.decode bytes = .ok file) : ∀ part ∈ file.unit.sections, part.Filled := by
  rw [decode] at decoded
  split at decoded
  · cases decoded
  · have all := lasting_filled.upholds_decodeFile (start bytes.toArray) fun _ found => nomatch found
    split at decoded
    · rename_i ran
      cases decoded
      rw [ran] at all
      exact all file.unit (unit_of_run_decodeFile ran)
    · cases decoded

end SuperHBench
