import MoveWire.Address
import MoveWire.Cli
import MoveWire.Cli.Arguments
import MoveWire.Cli.Failure
import MoveWire.Cli.LogFilter
import MoveWire.Config
import MoveWire.Digest
import MoveWire.Effects
import MoveWire.Hash.Blake2b
import MoveWire.Hash.Sha512
import MoveWire.Hash.Words
import MoveWire.Json.Fault
import MoveWire.Json.Mark
import MoveWire.Json.Parser
import MoveWire.Json.Printer
import MoveWire.Json.TextLists
import MoveWire.Json.Value
import MoveWire.Main
import MoveWire.Move.Identifier
import MoveWire.Move.Parameter
import MoveWire.Move.PureType
import MoveWire.Move.TypeTag
import MoveWire.Move.TypeTag.Counting
import MoveWire.Move.TypeTag.Parser
import MoveWire.Move.TypeTag.Printer
import MoveWire.Move.TypeTag.Wire
import MoveWire.Number.Binary64
import MoveWire.Number.Decimal
import MoveWire.Number.Power
import MoveWire.Number.Wide
import MoveWire.Object
import MoveWire.Proofs.Address
import MoveWire.Proofs.Address.Forms
import MoveWire.Proofs.Cli
import MoveWire.Proofs.Decoding
import MoveWire.Proofs.Effects
import MoveWire.Proofs.Fallible
import MoveWire.Proofs.Json
import MoveWire.Proofs.Move.Parameter
import MoveWire.Proofs.Move.Parameter.Generic
import MoveWire.Proofs.Move.Parameter.Substitution
import MoveWire.Proofs.Move.StructTag
import MoveWire.Proofs.Move.TypeTag.Accepted
import MoveWire.Proofs.Move.TypeTag.Brackets
import MoveWire.Proofs.Move.TypeTag.Counting
import MoveWire.Proofs.Move.TypeTag.Grammar
import MoveWire.Proofs.Move.TypeTag.Parts
import MoveWire.Proofs.Move.TypeTag.Printed
import MoveWire.Proofs.Move.TypeTag.Reading
import MoveWire.Proofs.Move.TypeTag.Segments
import MoveWire.Proofs.Move.TypeTag.Text
import MoveWire.Proofs.Move.TypeTag.TextAndWire
import MoveWire.Proofs.Move.TypeTag.Wire
import MoveWire.Proofs.Number.Digits
import MoveWire.Proofs.Number.Wide
import MoveWire.Proofs.Object
import MoveWire.Proofs.Pure.Content
import MoveWire.Proofs.Pure.Grammar
import MoveWire.Proofs.Pure.Json
import MoveWire.Proofs.Pure.Json.Reading
import MoveWire.Proofs.Registry
import MoveWire.Proofs.Signing.Purpose
import MoveWire.Proofs.Signing.Signers
import MoveWire.Proofs.Signing.Verification
import MoveWire.Proofs.Signing.Wire
import MoveWire.Proofs.Text.Base64
import MoveWire.Proofs.Text.Blank
import MoveWire.Proofs.Text.Hex
import MoveWire.Proofs.Transaction.Builder
import MoveWire.Proofs.Transaction.Builder.Additions
import MoveWire.Proofs.Transaction.Builder.Correctness
import MoveWire.Proofs.Transaction.Builder.Failure
import MoveWire.Proofs.Transaction.Builder.Instructions
import MoveWire.Proofs.Transaction.Builder.Interrupted
import MoveWire.Proofs.Transaction.Builder.Operations
import MoveWire.Proofs.Transaction.Builder.Parts
import MoveWire.Proofs.Transaction.Builder.References
import MoveWire.Proofs.Transaction.Content
import MoveWire.Proofs.Transaction.Resolution
import MoveWire.Proofs.Transaction.Resolution.Order
import MoveWire.Proofs.Transaction.RoundTrip
import MoveWire.Proofs.Transaction.Uses
import MoveWire.Proofs.Transaction.Wire
import MoveWire.Proofs.Wire.Codec
import MoveWire.Proofs.Wire.Cursor
import MoveWire.Proofs.Wire.Reading
import MoveWire.Proofs.Wire.Script
import MoveWire.Proofs.Wire.Text
import MoveWire.Proofs.Wire.Uleb128
import MoveWire.Proofs.Wire.Union
import MoveWire.Proofs.Wire.WholeBuffer
import MoveWire.Pure.Json
import MoveWire.Pure.Type
import MoveWire.Pure.Value
import MoveWire.Registry
import MoveWire.Registry.Table
import MoveWire.Registry.WireType
import MoveWire.Signing.Ed25519
import MoveWire.Signing.Error
import MoveWire.Signing.Intent
import MoveWire.Signing.KeyPair
import MoveWire.Signing.Signature
import MoveWire.Signing.SignedTransaction
import MoveWire.Signing.Suite
import MoveWire.Text.Alphanumeric
import MoveWire.Text.Base58
import MoveWire.Text.Base64
import MoveWire.Text.Blank
import MoveWire.Text.Casing
import MoveWire.Text.Casing.Ranges
import MoveWire.Text.Hex
import MoveWire.Text.Hidden
import MoveWire.Text.Quoted
import MoveWire.Text.Ranges
import MoveWire.Text.Utf8
import MoveWire.Transaction.Argument
import MoveWire.Transaction.Builder
import MoveWire.Transaction.Builder.InputTable
import MoveWire.Transaction.Command
import MoveWire.Transaction.Data
import MoveWire.Transaction.Resolution
import MoveWire.Transaction.Signatures
import MoveWire.View.Effects
import MoveWire.View.Object
import MoveWire.View.Pure
import MoveWire.View.Reading
import MoveWire.View.Signing
import MoveWire.View.Transaction
import MoveWire.Wire.Bytes
import MoveWire.Wire.Codec
import MoveWire.Wire.Error
import MoveWire.Wire.Reader
import MoveWire.Wire.Script
import MoveWire.Wire.Sink
import MoveWire.Wire.Text
import MoveWire.Wire.Writer
