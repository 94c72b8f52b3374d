import BlockStorage.Api
import BlockStorage.Resource.Format

/-!
Documents of the answers to calls.

A resource is written in its own format, and a listing as the list of its resources. The answer to a
change that may be done later tells whether it was only accepted.
-/

namespace BlockStorage

namespace Submission

/-- The answer to a change as a document. -/
def document {α : Type} (write : α → Document) : Submission α → Document
  | .completed value => .record [("completed", write value)]
  | .accepted => .text "accepted"

end Submission

namespace Call

open DocumentFormat in
/-- The answer to a call as a document. -/
def answerDocument : (c : Call) → c.Answer → Document
  | .authenticate .., answer => session.write answer
  | .getLicence, answer => licence.write answer
  | .listNamespaces, answer => (list «namespace»).write answer
  | .getNamespace _, answer => «namespace».write answer
  | .getNamespaceByName _, answer => «namespace».write answer
  | .createNamespace .., answer => «namespace».write answer
  | .deleteNamespace .., () => .null
  | .listVolumes _, answer => (list volume).write answer
  | .getVolume .., answer => volume.write answer
  | .getVolumeByName .., answer => volume.write answer
  | .createVolume .., answer => answer.document volume.write
  | .resizeVolume .., answer => answer.document volume.write
  | .setReplicas .., answer => answer.document volume.write
  | .setDescription .., answer => volume.write answer
  | .updateNfsExports .., answer => answer.document volume.write
  | .attachVolume .., answer => answer.document volume.write
  | .detachVolume .., answer => answer.document fun () => .null
  | .deleteVolume .., answer => answer.document fun () => .null
  | .listNodes, answer => (list node).write answer
  | .getNode _, answer => node.write answer
  | .getNodeByName _, answer => node.write answer
  | .setNodeCordoned .., answer => node.write answer
  | .listUsers, answer => (list user).write answer
  | .getUser _, answer => user.write answer
  | .getUserByName _, answer => user.write answer
  | .listPolicyGroups, answer => (list policyGroup).write answer
  | .getPolicyGroup _, answer => policyGroup.write answer
  | .getPolicyGroupByName _, answer => policyGroup.write answer

end Call

end BlockStorage
