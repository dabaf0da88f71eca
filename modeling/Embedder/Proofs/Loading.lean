import Embedder.Module
import Embedder.Proofs.Steps

/-!
# The stages of loading

A module is loaded from the bytes of a file in three stages: they are taken as binary code or as a text; a
text is read; and what is there is checked. Each stage has an error of its own.

* **`Module.ofBytes_eq`** -- loading is the three stages, one after the other;
* `Source.exitCode_of_error`, `Source.exitCode_of_read`, `Draft.exitCode_of_check` -- which errors a stage
  can have.
-/

namespace Embedder

/-! ## 1. Stages -/

/-- The bytes of a file, as what they are. -/
inductive Source where
  | binary (bytes : List UInt8)
  | text (t : String)

/-- A module that has been read, or is to be read from binary code, and has not been checked. -/
inductive Draft where
  | binary (bytes : List UInt8)
  /-- No module, but a component; the module that is met first in it. -/
  | component (leading : Option Wasm.Module)
  | module (m : Wasm.Module)

/-- The bytes of the file at a path: binary if they begin so, and otherwise they have to be a text. -/
def Source.ofBytes (path : String) (bytes : List UInt8) : Except RuntimeError Source :=
  if Wasm.Binary.magic.isPrefixOf bytes then .ok (.binary bytes)
  else
    match Text.Utf8.decodeText bytes with
    | .error f => .error (.sourceUnavailable path ("not UTF-8 text: " ++ f.message))
    | .ok t => .ok (.text t)

/-- Reads a text. There is nothing to do for binary code. -/
def Source.read : Source → Except RuntimeError Draft
  | .binary bytes => .ok (.binary bytes)
  | .text t =>
    let complain (c : Complaint) : RuntimeError := .ofDiagnostic (c.render t.toList)
    match Wasm.Wat.Document.ofText t.toList with
    | .error c => .error (complain c)
    | .ok (.binary bytes) => .ok (.binary bytes)
    | .ok (.component c) => (c.leadingModule.mapError complain).map .component
    | .ok (.module name fields) => ((Wasm.Wat.Module.ofFields name fields).mapError complain).map .module

/-- Checks what was read; binary code is decoded first. -/
def Draft.check (engine : Engine) : Draft → Except RuntimeError Module
  | .binary bytes => Module.ofBinary engine bytes
  | .component leading => .error (Loaded.componentError .own leading)
  | .module m => Module.ofWasm engine m

/-- **Loading is the three stages, one after the other.** -/
theorem Module.ofBytes_eq (engine : Engine) (path : String) (bytes : List UInt8) :
    Module.ofBytes engine path bytes =
      Source.ofBytes path bytes >>= fun s => s.read >>= fun d => d.check engine := by
  unfold Module.ofBytes Source.ofBytes
  split
  · rfl
  · cases Text.Utf8.decodeText bytes with
    | error f => rfl
    | ok t =>
      show Module.ofText engine t = (Source.read (.text t)) >>= fun d => d.check engine
      unfold Module.ofText Source.read
      dsimp only
      cases Wasm.Wat.Document.ofText t.toList with
      | error c => rfl
      | ok d =>
        cases d with
        | binary bytes => rfl
        | component c =>
          dsimp only
          cases c.leadingModule with
          | error c => rfl
          | ok leading => rfl
        | module name fields =>
          dsimp only
          cases Wasm.Wat.Module.ofFields name fields with
          | error c => rfl
          | ok m => rfl

/-! ## 2. Errors -/

theorem Source.exitCode_of_error {path : String} {bytes : List UInt8} {e : RuntimeError}
    (h : Source.ofBytes path bytes = .error e) : e.exitCode = 65 := by
  unfold Source.ofBytes at h
  split at h
  · cases h
  · split at h
    · cases h
      rfl
    · cases h

theorem error_of_mapError_map {ε ε' α β : Type} {x : Except ε α} {f : ε → ε'} {g : α → β} {e : ε'}
    (h : (x.mapError f).map g = .error e) : ∃ c, e = f c := by
  cases x with
  | error c =>
    cases h
    exact ⟨c, rfl⟩
  | ok a => cases h

theorem Source.exitCode_of_read {s : Source} {e : RuntimeError} (h : s.read = .error e) :
    e.exitCode = 66 := by
  cases s with
  | binary bytes => cases h
  | text t =>
    unfold Source.read at h
    dsimp only at h
    split at h
    · cases h
      rfl
    · cases h
    · obtain ⟨c, rfl⟩ := error_of_mapError_map h
      rfl
    · obtain ⟨c, rfl⟩ := error_of_mapError_map h
      rfl

section Errors

variable {β : Type} {J : Judge β} {e : RuntimeError}

theorem Loaded.exitCode_of_ofWasm {m : Wasm.Module β} (h : Loaded.ofWasm J m = .error e) : e.exitCode = 67 := by
  unfold Loaded.ofWasm at h
  -- one case for each of the four checks, and one for none that fails
  split at h
  · cases h
    rfl
  · split at h
    · cases h
      rfl
    · split at h
      · cases h
        rfl
      · split at h
        · cases h
          rfl
        · cases h

theorem Loaded.exitCode_componentError (J : Judge β) (leading : Option (Wasm.Module β)) :
    (Loaded.componentError J leading).exitCode = 67 := by
  unfold Loaded.componentError
  split <;> rfl

theorem Loaded.exitCode_of_ofBinary {bytes : List UInt8} (h : Loaded.ofBinary J bytes = .error e) :
    e.exitCode = 67 := by
  unfold Loaded.ofBinary at h
  split at h
  · cases h
    rfl
  · cases h
    exact Loaded.exitCode_componentError J _
  · exact Loaded.exitCode_of_ofWasm h

end Errors

theorem Draft.exitCode_of_check {engine : Engine} {d : Draft} {e : RuntimeError}
    (h : d.check engine = .error e) : e.exitCode = 67 := by
  cases d with
  | binary bytes => exact Loaded.exitCode_of_ofBinary (map_eq_error_iff.mp h)
  | component leading =>
    cases h
    exact Loaded.exitCode_componentError .own leading
  | module m => exact Loaded.exitCode_of_ofWasm (map_eq_error_iff.mp h)

end Embedder
