import ParserHost.Exchange.Document
import ParserHost.Exchange.Message
import ParserHost.Exchange.Request

/-!
Responses, what a parser answers: documents or created files, and messages. `Response.check` takes
an untyped answer to a request of a given mode.
-/
namespace ParserHost

open Schema

structure CreatedFile where
  filePath : String
  deriving DecidableEq, Repr, Inhabited

namespace CreatedFile

def fields (e : Json.Entries) : Checked CreatedFile :=
  mk <$> required e ⟨"filePath", "file_path"⟩ string

def check : Json → Checked CreatedFile :=
  model "CreatedFile" fields

def toJson (f : CreatedFile) : Json :=
  .obj [("filePath", .str f.filePath)]

end CreatedFile

structure ParseResponse where
  docs : List Document
  messages : List Message
  deriving Repr, Inhabited

namespace ParseResponse

def fields (e : Json.Entries) : Checked ParseResponse :=
  mk <$> required e (word "docs") (tuple Document.check)
    <*> required e (word "messages") (tuple Message.check)

def check : Json → Checked ParseResponse :=
  model "ParseResponse" fields

def toJson (r : ParseResponse) : Json :=
  .obj [
    ("docs", .arr (r.docs.map Document.toJson)),
    ("messages", .arr (r.messages.map Message.toJson))]

def payload (r : ParseResponse) : Except Json.Excess Json :=
  Json.payload (r.docs.map Document.templateData) r.toJson

end ParseResponse

structure CreateResponse where
  createdFiles : List CreatedFile
  messages : List Message
  deriving Repr, Inhabited

namespace CreateResponse

def fields (e : Json.Entries) : Checked CreateResponse :=
  mk <$> required e ⟨"createdFiles", "created_files"⟩ (tuple CreatedFile.check)
    <*> required e (word "messages") (tuple Message.check)

def check : Json → Checked CreateResponse :=
  model "CreateResponse" fields

def toJson (r : CreateResponse) : Json :=
  .obj [
    ("createdFiles", .arr (r.createdFiles.map CreatedFile.toJson)),
    ("messages", .arr (r.messages.map Message.toJson))]

end CreateResponse

inductive Response where
  | parse (r : ParseResponse)
  | create (r : CreateResponse)
  deriving Repr, Inhabited

namespace Response

def check : Mode → Json → Checked Response
  | .parse, v => (ParseResponse.check v).map parse
  | .create, v => (CreateResponse.check v).map create

def payload : Response → Except Json.Excess Json
  | parse r => r.payload
  | create r => .ok r.toJson

def messages : Response → List Message
  | parse r => r.messages
  | create r => r.messages

def documents : Response → List Document
  | parse r => r.docs
  | create _ => []

def createdFiles : Response → List CreatedFile
  | parse _ => []
  | create r => r.createdFiles

def dedupe : Response → Response
  | parse r => parse { r with docs := Document.dedupe r.docs }
  | create r => create r

end Response

end ParserHost
