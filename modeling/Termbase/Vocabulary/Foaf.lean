import Termbase.Vocabulary

/-! The vocabulary of people and what they do. -/

namespace Termbase.Vocabulary

def foafTable : List (String × String) := [
  ("ACCOUNT", "account"), ("ACCOUNT_NAME", "accountName"),
  ("ACCOUNT_SERVICE_HOMEPAGE", "accountServiceHomepage"), ("AGE", "age"), ("AGENT", "Agent"),
  ("AIM_CHAT_ID", "aimChatID"), ("BASED_NEAR", "based_near"), ("BIRTHDAY", "birthday"),
  ("CURRENT_PROJECT", "currentProject"), ("DEPICTION", "depiction"), ("DEPICTS", "depicts"),
  ("DEPRECATED_DNA_CHECKSUM", "dnaChecksum"), ("DOCUMENT", "Document"),
  ("DEPRECATED_FAMILY_NAME", "family_name"), ("FAMILY_NAME", "familyName"),
  ("FIRST_NAME", "firstName"), ("FOCUS", "focus"), ("DEPRECATED_FUNDED_BY", "fundedBy"),
  ("DEPRECATED_GEEKCODE", "geekcode"), ("GENDER", "gender"), ("GIVEN_NAME", "givenName"),
  ("DEPRECATED_GIVENNAME", "givenname"), ("GROUP", "Group"),
  ("DEPRECATED_HOLDS_ACCOUNT", "holdsAccount"), ("HOMEPAGE", "homepage"),
  ("ICQ_CHAT_ID", "icqChatID"), ("IMAGE", "Image"), ("IMG", "img"), ("INTEREST", "interest"),
  ("IS_PRIMARY_TOPIC_OF", "isPrimaryTopicOf"), ("JABBER_ID", "jabberID"), ("KNOWS", "knows"),
  ("LABEL_PROPERTY", "LabelProperty"), ("LAST_NAME", "lastName"), ("LOGO", "logo"),
  ("MADE", "made"), ("MAKER", "maker"), ("MBOX", "mbox"), ("MBOX_SHA_1_SUM", "mbox_sha1sum"),
  ("MEMBER", "member"), ("MEMBERSHIP_CLASS", "membershipClass"), ("MSN_CHAT_ID", "msnChatID"),
  ("MYERS_BRIGGS", "myersBriggs"), ("NAME", "name"), ("NICK", "nick"),
  ("ONLINE_ACCOUNT", "OnlineAccount"), ("ONLINE_CHAT_ACCOUNT", "OnlineChatAccount"),
  ("ONLINE_ECOMMERCE_ACCOUNT", "OnlineEcommerceAccount"),
  ("ONLINE_GAMING_ACCOUNT", "OnlineGamingAccount"), ("OPENID", "openid"),
  ("ORGANIZATION", "Organization"), ("PAGE", "page"), ("PAST_PROJECT", "pastProject"),
  ("PERSON", "Person"), ("PERSONAL_PROFILE_DOCUMENT", "PersonalProfileDocument"),
  ("PHONE", "phone"), ("PLAN", "plan"), ("PRIMARY_TOPIC", "primaryTopic"), ("PROJECT", "Project"),
  ("PUBLICATIONS", "publications"), ("SCHOOL_HOMEPAGE", "schoolHomepage"), ("SHA_1", "sha1"),
  ("SKYPE_ID", "skypeID"), ("STATUS", "status"), ("SURNAME", "surname"),
  ("DEPRECATED_THEME", "theme"), ("THUMBNAIL", "thumbnail"), ("TIPJAR", "tipjar"),
  ("TITLE", "title"), ("TOPIC", "topic"), ("TOPIC_INTEREST", "topic_interest"),
  ("WEBLOG", "weblog"), ("WORK_INFO_HOMEPAGE", "workInfoHomepage"),
  ("WORKPLACE_HOMEPAGE", "workplaceHomepage"), ("YAHOO_CHAT_ID", "yahooChatID")]

def foaf : Vocabulary where
  title := "Friend of a Friend".toList
  namespaceIri := "http://xmlns.com/foaf/0.1/".toList
  label := "foaf".toList
  listsNamespace := false
  named := namedTerms foafTable

end Termbase.Vocabulary
