import SchemaDocs.Text.Basic
import SchemaDocs.Text.LetterCase
import SchemaDocs.Text.Printable
import SchemaDocs.Text.Blank
import SchemaDocs.Text.Utf8
import SchemaDocs.Json.Value
import SchemaDocs.Json.Reader
import SchemaDocs.ClassDoc.Registry
import SchemaDocs.ClassDoc.Json
import SchemaDocs.Markup.Comment
import SchemaDocs.Docstring.Basic
import SchemaDocs.Discovery.Target
import SchemaDocs.Discovery.Find
import SchemaDocs.Markup.Batch
import SchemaDocs.Config.Basic
import SchemaDocs.Wire.Decode
import SchemaDocs.Wire.DescriptorRecords
import SchemaDocs.Response.Assemble
import SchemaDocs.Descriptor.ConvertFile
import SchemaDocs.Config.Yaml
import SchemaDocs.Shell.Convert
import SchemaDocs.CommandLine.Run
import SchemaDocs.Main
import SchemaDocs.Proofs.Markup.SingleConversion
import SchemaDocs.Proofs.Response.Assembly
import SchemaDocs.Proofs.Discovery.Resolution
import SchemaDocs.Proofs.Docstring.Literal
import SchemaDocs.Proofs.Response.Content
import SchemaDocs.Proofs.Descriptor.WriteBack
import SchemaDocs.Proofs.Discovery.Documented
import SchemaDocs.Proofs.Response.InsertionPoint
import SchemaDocs.Proofs.Discovery.Recording
import SchemaDocs.Proofs.Discovery.Apart
import SchemaDocs.Proofs.Discovery.Event
import SchemaDocs.Proofs.Discovery.Gathering
import SchemaDocs.Proofs.Discovery.Listing
import SchemaDocs.Proofs.Response.Independence
import SchemaDocs.Proofs.Markup.History
import SchemaDocs.Proofs.Response.Identity
import SchemaDocs.Proofs.Descriptor.Preservation
import SchemaDocs.Proofs.Markup.Spacing
import SchemaDocs.Proofs.Markup.Link
import SchemaDocs.Proofs.Markup.Sending
import SchemaDocs.Proofs.ClassDoc.Session
import SchemaDocs.Proofs.ClassDoc.Json
import SchemaDocs.Proofs.Wire.Request
import SchemaDocs.Proofs.CommandLine.Answering
import SchemaDocs.Proofs.Config.Host
import SchemaDocs.Proofs.Config.Parameter
import SchemaDocs.Proofs.Discovery.Missing
import SchemaDocs.Proofs.Docstring.Reading
