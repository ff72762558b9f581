import InstallerKit.Document
import InstallerKit.Markup.Element

/-!
# Fragment sources

A source is a document with a fixed root element that declares two namespaces,
and whose content is written by *producers*, each inside of a fragment element of
its own. Producers write through the layer that protects literal dollars.
-/

namespace InstallerKit.Fragment

open Markup (Call Element Script)

/-- The name of the root element. -/
def rootElement : String := "Wix"

/-- The name of a fragment's element. -/
def fragmentElement : String := "Fragment"

/-- The default namespace of a source. -/
def namespaceUri : String := "http://schemas.microsoft.com/wix/2006/wi"

/-- The label of the namespace of the utility extension. -/
def utilityLabel : String := "util"

/-- The namespace of the utility extension. -/
def utilityUri : String := "http://schemas.microsoft.com/wix/UtilExtension"

/-- Something that writes the content of a fragment. -/
inductive Producer
  /-- Writes given elements. -/
  | elements (es : List Element)
  | script (s : Script)
  /-- A datum in the place of a producer; it cannot write anything. -/
  | idle (d : Datum)

namespace Producer

/-- What a producer does. -/
def toScript : Producer → Script
  | elements es => .ofCalls (Element.callsAll es)
  | script s => s
  | idle d => .fail (.of (.idleProducer d.kind))

/-- The element of a fragment with what its producer writes. -/
def wrapped (element : String) (p : Producer) : Script :=
  .andThen (.ofCalls [.startElement element]) (.andThen p.toScript (.ofCalls [.endElement]))

/-- The fragments of several producers, in order. -/
def fragments (element : String) : List Producer → Script
  | [] => .done
  | p :: rest => .andThen (p.wrapped element) (fragments element rest)

end Producer

/-- The root element of a source with a content. -/
def source (content : Script) : Script :=
  .andThen
    (.ofCalls [.startElement rootElement, .defaultNamespace namespaceUri,
      .declareNamespace utilityLabel utilityUri])
    (.andThen (content.mapCalls Call.escaped) (.ofCalls [.endElement]))

/-- Renders a source and saves it. -/
def createSource (path : Path) (content : Script) : Action Unit :=
  Document.create path (source content) (some Document.standardIndent) Document.standardEncoding

end InstallerKit.Fragment
