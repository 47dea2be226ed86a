import StrategyDeploy.Text.Blank
import StrategyDeploy.Text.Escaped
import StrategyDeploy.Amount.Units
import StrategyDeploy.Text.Lines
import StrategyDeploy.Document.Split
import StrategyDeploy.Expression.Basic
import StrategyDeploy.Expression.Compose
import StrategyDeploy.Bytes.Hex
import StrategyDeploy.Bytes.Fixed
import StrategyDeploy.Hash.Keccak
import StrategyDeploy.Evm.Address
import StrategyDeploy.Toml.Value
import StrategyDeploy.Toml.Scalar
import StrategyDeploy.Toml.Tables
import StrategyDeploy.Toml.Parse
import StrategyDeploy.Toml.Shape
import StrategyDeploy.Evm.Word
import StrategyDeploy.Deployment.FrontMatter
import StrategyDeploy.Deployment.Basic
import StrategyDeploy.Deployment.Fingerprint
import StrategyDeploy.Deployment.Load
import StrategyDeploy.Meta.Document
import StrategyDeploy.Session.Store
import StrategyDeploy.Amount.Decimal
import StrategyDeploy.Reader.Basic
import StrategyDeploy.Reader.Replies
import StrategyDeploy.Evm.Abi
import StrategyDeploy.Calldata.Basic
import StrategyDeploy.Calldata.Minimum
import StrategyDeploy.Calldata.Resolve
import StrategyDeploy.Calldata.Allowance
import StrategyDeploy.Calldata.Compile
import StrategyDeploy.Bytes.Base64
import StrategyDeploy.Gzip.Crc32
import StrategyDeploy.Deflate.Symbols
import StrategyDeploy.Deflate.Huffman
import StrategyDeploy.Deflate.Bits
import StrategyDeploy.Deflate.Matcher
import StrategyDeploy.Deflate.Encode
import StrategyDeploy.Deflate.Inflate
import StrategyDeploy.Gzip.Member
import StrategyDeploy.MsgPack.Write
import StrategyDeploy.MsgPack.Read
import StrategyDeploy.Session.Record
import StrategyDeploy.Session.Blob
import StrategyDeploy.Text.JsonDoc
import StrategyDeploy.App.Settings
import StrategyDeploy.App.Error
import StrategyDeploy.App.Application
import StrategyDeploy.App.CommandLine
import StrategyDeploy.Main
import StrategyDeploy.Proofs.Except
import StrategyDeploy.Proofs.Deployment.Loaded
import StrategyDeploy.Proofs.Session.InsertionMap
import StrategyDeploy.Proofs.Session.Steps
import StrategyDeploy.Proofs.Bytes.Layout
import StrategyDeploy.Proofs.Bytes.Base64
import StrategyDeploy.Proofs.MsgPack.Reading
import StrategyDeploy.Proofs.Session.Record
import StrategyDeploy.Proofs.Gzip.Member
import StrategyDeploy.Proofs.Deployment.Fingerprint
import StrategyDeploy.Proofs.Session.Restore
import StrategyDeploy.Proofs.Evm.Decoding
import StrategyDeploy.Proofs.Calldata.Multicall
import StrategyDeploy.Proofs.Amount.Units
import StrategyDeploy.Proofs.Amount.Decimal
import StrategyDeploy.Proofs.Calldata.Minimum
import StrategyDeploy.Proofs.Calldata.AcceptedUpdates
import StrategyDeploy.Proofs.Calldata.RecordedAddresses
import StrategyDeploy.Proofs.Amount.Format
import StrategyDeploy.Proofs.Calldata.Reads
import StrategyDeploy.Proofs.Calldata.ComposeErrors
import StrategyDeploy.Proofs.Expression.Sections
import StrategyDeploy.Proofs.Expression.Words
import StrategyDeploy.Proofs.Expression.Composition
import StrategyDeploy.Proofs.Evm.OrderBook
import StrategyDeploy.Proofs.Calldata.OrderPayload
import StrategyDeploy.Proofs.Calldata.Allowances
import StrategyDeploy.Proofs.Calldata.Deposits
import StrategyDeploy.Proofs.Calldata.Approvals
import StrategyDeploy.Proofs.Meta.Cbor
import StrategyDeploy.Proofs.App.ApplyValues
import StrategyDeploy.Proofs.Deployment.Resolution
import StrategyDeploy.Proofs.Document.Split
