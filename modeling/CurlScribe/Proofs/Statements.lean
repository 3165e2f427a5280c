/-
This file says how the statements of a draft are put together. The code for a body makes the
reader of its text and the readers of its files, and then joins them. The code for a request
makes the client, makes the body, and then builds the request, configures it and sends it.

Files are held in variables of their own, and a variable for a file is not one for anything
else.
-/

import CurlScribe.Proofs.EmittedLiterals
import CurlScribe.Proofs.References
import Mathlib.Data.List.Nodup

namespace CurlScribe.Go

open Text

/-! ### The variables of files -/

/-- The name is one of those for opened files: an `f`, alone or with a number. -/
def IsFileName (name : String) : Prop :=
  name = "f" ∨ isFileVariable name = true

instance (name : String) : Decidable (IsFileName name) :=
  inferInstanceAs (Decidable (_ ∨ _))

theorem toList_numbered (number : Nat) :
    ("f" ++ toString number).toList = 'f' :: Nat.toDigits 10 number := by
  rw [String.toList_append, Nat.toString_eq_repr, Nat.toList_repr]
  rfl

theorem isFileVariable_numbered (number : Nat) :
    isFileVariable ("f" ++ toString number) = true := by
  unfold isFileVariable
  rw [toList_numbered]
  simp only [Bool.and_eq_true, Bool.not_eq_true', List.isEmpty_eq_false_iff, List.all_eq_true]
  exact ⟨Nat.toDigits_ne_nil,
    fun digit member => Nat.isDigit_of_mem_toDigits (by decide) (by decide) member⟩

theorem isFileName_of_mem {count : Nat} {name : String} (member : name ∈ fileNames count) :
    IsFileName name := by
  unfold fileNames at member
  split_ifs at member
  · exact Or.inl (List.mem_singleton.1 member)
  · obtain ⟨index, -, rfl⟩ := List.mem_map.1 member
    exact Or.inr (isFileVariable_numbered _)

theorem nodup_fileNames (count : Nat) : (fileNames count).Nodup := by
  unfold fileNames
  split_ifs
  · exact List.nodup_singleton _
  · exact List.nodup_range.map fun first second same => Nat.succ_inj.1 (append_toString_inj same)

theorem fileNames_zip_fst (paths : List String) :
    ((fileNames paths.length).zip paths).map Prod.fst = fileNames paths.length :=
  List.map_fst_zip (Nat.le_of_eq (length_fileNames paths.length))

/-! ### Bodies -/

/-- The readers of a body: that of its text, and its files. -/
def bodyReaders (body : Body) : List String :=
  body.payload?.toList.map (fun _ => bodyName) ++ fileNames body.paths.length

/-- The code that makes the reader of the text of a body. -/
def inlineStatements (style : BodyStyle) (body : Body) : List Statement :=
  body.payload?.toList.flatMap fun payload => (writePayload style payload).statements

/-- The code that makes the readers of a body. -/
def readerStatements (style : BodyStyle) (body : Body) : List Statement :=
  inlineStatements style body ++
    ((fileNames body.paths.length).zip body.paths).flatMap
      fun file => (writeFile file.1 file.2).statements

theorem statements_writeBody (style : BodyStyle) (body : Body) :
    (writeBody style body).1.statements =
      readerStatements style body ++ (joinReaders (bodyReaders body)).1.statements := by
  simp [writeBody, readerStatements, inlineStatements, bodyReaders, List.flatMap_map]

/-! ### Requests -/

/-- A request that says nothing beyond its method and its address has no body. -/
theorem body_of_isSimple {request : Request} (simple : request.isSimple = true) :
    request.body = .none := by
  have bare : request.body.isNone = true := by
    simp only [Request.isSimple, Bool.and_eq_true] at simple
    exact simple.1.1.2
  cases given : request.body with
  | none => rfl
  | payload _ | files _ | mixed _ _ => simp [given, Body.isNone] at bare

/-- The statements that set the credentials, the host and the headers of a request. -/
def settingStatements (request : Request) : List Statement :=
  request.basicAuth.toList.flatMap (fun auth => (writeCredentials auth).statements) ++
    (writeHeaders request.headers).statements

/-- The client that sends a request. -/
def sendingClient (insecure : Bool) : Expression :=
  if insecure then .name "client" else defaultClient

/-- The statements that make the client. -/
def clientStatements (insecure : Bool) : List Statement :=
  if insecure then writeInsecureClient.statements else []

/-- The statements that build the request, configure it and send it. -/
def sendingStatements (request : Request) (reader : Expression) : List Statement :=
  build request.method request.url reader :: .checkError ::
    (settingStatements request ++ .blank :: receive (sendWith (sendingClient request.insecure)) ::
      closing)

theorem statements_draftBuilt (style : BodyStyle) (request : Request) :
    (draftBuilt style request).statements =
      clientStatements request.insecure ++ ((writeBody style request.body).1.statements ++
        sendingStatements request (writeBody style request.body).2) := by
  unfold draftBuilt clientStatements sendingStatements settingStatements sendingClient
  simp only [Draft.statements_append, Draft.statements_require, Draft.statements_requireFor,
    Draft.statements_emit, Draft.statements_concat, List.flatMap_map, List.nil_append,
    List.append_assoc, List.cons_append, apply_ite Draft.statements]

/-- The warning about the name of a type adds no statement. -/
theorem statements_draft (options : RenderOptions) (typeWriter : TypeWriter) (request : Request) :
    (draft options typeWriter request).statements =
      if request.isSimple then (draftSimple request.method request.url).statements
      else (draftBuilt ⟨typeWriter, options.effectiveTypeName, request.encoding⟩
        request).statements := by
  unfold draft
  split_ifs <;> simp only [Draft.statements_append, Draft.statements_warn,
    List.nil_append]

end CurlScribe.Go
