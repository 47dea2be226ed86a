import StrategyDeploy.Reader.Basic

/-! A reader that answers from a table of canned replies. -/
namespace StrategyDeploy.Reader

open StrategyDeploy.Evm StrategyDeploy.Bytes

/-- A canned answer. -/
inductive Answer where
  | returns (data : List UInt8)
  | fails (error : RpcError)
  deriving Repr

/-- A canned reply to calls of one selector on one contract. -/
structure Reply where
  target : Address
  selector : List UInt8
  answer : Answer
  deriving Repr

def Reply.fits (r : Reply) (c : Call) : Bool :=
  r.target == c.target && some r.selector == c.selector?

def noReply (c : Call) : RpcError :=
  let target := c.target.checksummed
  let selector := toPrefixedHex ((c.selector?).getD [0, 0, 0, 0])
  .jsonRpc (-32000) s!"execution reverted: no reply for {target} {selector}"

def answerFrom (replies : List Reply) (c : Call) : Except RpcError (List UInt8) :=
  match replies.reverse.find? (·.fits c) with
  | some ⟨_, _, .returns data⟩ => .ok data
  | some ⟨_, _, .fails e⟩ => .error e
  | none => .error (noReply c)

/-- A reader answering from a reply table. -/
def ofReplies (replies : List Reply) : Reader where
  answer := answerFrom replies
  delivers := true

end StrategyDeploy.Reader
